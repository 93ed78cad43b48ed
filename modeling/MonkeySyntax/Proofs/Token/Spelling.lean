import MonkeySyntax.Token.Scan

/-!
Contract: how the tokens of a text are spelled.

Owns:
- the spellings of each kind of token;
- that every token of a text has a spelling of its kind, which is what the text
  reads where the token stands;
- what the spelling of a kind tells about its characters.

Does not own: where one token ends and the next one starts.
-/

set_option autoImplicit false

namespace MonkeySyntax

/-- The spellings of the kinds. The end of the input has none. -/
inductive Spelled : TokenKind → List Char → Prop where
  | single {char : Char} {kind : TokenKind}
      (listed : TokenKind.singles.lookup char = some kind) : Spelled kind [char]
  | alone {char : Char} {alone paired : TokenKind}
      (listed : TokenKind.doubles.lookup char = some (alone, paired)) : Spelled alone [char]
  | paired {char : Char} {alone paired : TokenKind}
      (listed : TokenKind.doubles.lookup char = some (alone, paired)) : Spelled paired [char, '=']
  | word {word : List Char} (isNonempty : word ≠ [])
      (isWord : ∀ char ∈ word, isWordChar char = true) :
      Spelled (TokenKind.ofWord (String.ofList word)) word
  | digits {digits : List Char} (isNonempty : digits ≠ [])
      (isDigit : ∀ char ∈ digits, isDigitChar char = true) : Spelled .int digits
  | illegal {char : Char} (notBlank : isBlankChar char = false)
      (notWord : isWordChar char = false) (notDigit : isDigitChar char = false)
      (notSingle : TokenKind.singles.lookup char = none)
      (notDouble : TokenKind.doubles.lookup char = none) : Spelled .illegal [char]

/-- Every token has a spelling of its kind. -/
def SpelledAll (tokens : List Token) : Prop :=
  ∀ token ∈ tokens, Spelled token.kind token.literal.toList

theorem spelledAll_append {tokens others : List Token} :
    SpelledAll (tokens ++ others) ↔ SpelledAll tokens ∧ SpelledAll others :=
  List.forall_mem_append

theorem spelledAll_cons {token : Token} {others : List Token} :
    SpelledAll (token :: others) ↔
      Spelled token.kind token.literal.toList ∧ SpelledAll others :=
  List.forall_mem_cons

/-- Every token ahead has a spelling of its kind. -/
def TokenStream.Lexed (stream : TokenStream) : Prop := SpelledAll stream.upcoming

namespace Cursor

/-! ### The tokens of a text -/

/-- A token and the cursor behind it divide the text, and the token is spelled as
its part of the text. -/
def Divides (cursor : Cursor) (read : Token × Cursor) : Prop :=
  Spelled read.1.kind read.1.literal.toList ∧
    cursor.rest = read.1.literal.toList ++ read.2.rest

section Characters

variable {cursor : Cursor} {first : Char} {others : List Char} {kind : TokenKind}

private theorem divides_single (unread : cursor.rest = first :: others)
    (spelled : Spelled kind [first]) : cursor.Divides (cursor.single kind) := by
  have atFirst : cursor.current = first := by rw [current, unread, List.headD_cons]
  unfold Divides single Token.ofPlace
  simp only [atFirst, rest_advance, unread, String.toList_ofList]
  exact ⟨spelled, rfl⟩

private theorem divides_withEquals (unread : cursor.rest = first :: others)
    (behind : cursor.next = '=') (spelled : Spelled kind [first, '=']) :
    cursor.Divides (cursor.withEquals kind) := by
  have atFirst : cursor.current = first := by rw [current, unread, List.headD_cons]
  have pair : others = '=' :: others.tail := by
    cases others with
    | nil => simp [next, unread, pastEnd] at behind
    | cons second others => simpa [next, unread] using behind
  unfold Divides withEquals Token.ofPlace
  simp only [atFirst, rest_advance, unread, String.toList_ofList]
  exact ⟨spelled, congrArg (List.cons first) pair⟩

private theorem divides_read (belongs : Char → Bool)
    (spelled : Spelled kind (cursor.run belongs)) :
    cursor.Divides (Token.ofPlace cursor.place kind (cursor.read belongs).1,
      (cursor.read belongs).2) := by
  unfold Divides read Token.ofPlace
  simp only [String.toList_ofList]
  exact ⟨spelled, (run_append_rest_skip cursor belongs).symm⟩

private theorem run_ne_nil {belongs : Char → Bool} (unread : cursor.rest = first :: others)
    (starts : belongs first = true) : cursor.run belongs ≠ [] := by
  rw [run, unread, List.takeWhile_cons_of_pos starts]
  exact List.cons_ne_nil _ _

private theorem of_mem_run {belongs : Char → Bool} :
    ∀ char ∈ cursor.run belongs, belongs char = true :=
  List.all_eq_true.mp (List.all_takeWhile ..)

end Characters

/-- The token under a cursor that is not on a blank is spelled as the text reads
there. -/
theorem divides_of_token? {cursor : Cursor} {read : Token × Cursor}
    (notBlank : ∀ char ∈ cursor.rest.head?, isBlankChar char = false)
    (found : cursor.token? = some read) : cursor.Divides read := by
  unfold token? at found
  split at found
  · cases found
  · rename_i first others unread
    rw [Option.some.injEq] at found
    rw [← found]
    split
    · rename_i alone paired listed
      split
      · rename_i behind
        exact divides_withEquals unread behind (.paired listed)
      · exact divides_single unread (.alone listed)
    · rename_i listed
      exact divides_single unread (.single listed)
    · rename_i notDouble notSingle
      split
      · rename_i starts
        exact divides_read isWordChar (.word (run_ne_nil unread starts) of_mem_run)
      · rename_i notWord
        split
        · rename_i starts
          exact divides_read isDigitChar (.digits (run_ne_nil unread starts) of_mem_run)
        · rename_i notDigit
          have nonBlank : isBlankChar first = false := notBlank first (by rw [unread]; rfl)
          exact divides_single unread (.illegal nonBlank (Bool.not_eq_true _ ▸ notWord)
            (Bool.not_eq_true _ ▸ notDigit) notSingle notDouble)

/-- A run ends in front of a character of another class. -/
theorem stops_skip (cursor : Cursor) (belongs : Char → Bool) :
    ∀ char ∈ (cursor.skip belongs).rest.head?, belongs char = false := by
  intro char listed
  have stops := List.head?_dropWhile_not belongs cursor.rest
  change (cursor.rest.dropWhile belongs).head? = some char at listed
  rw [listed] at stops
  simpa using stops

theorem not_blank_skipBlanks (cursor : Cursor) :
    ∀ char ∈ cursor.skipBlanks.rest.head?, isBlankChar char = false :=
  cursor.stops_skip isBlankChar

theorem lexed_tokens (cursor : Cursor) : cursor.tokens.Lexed := by
  fun_induction tokens cursor with
  | case1 cursor ended => exact fun _ absent => absurd absent List.not_mem_nil
  | case2 cursor token behind found shorter inductionHypothesis =>
      intro other listed
      rcases List.mem_cons.mp listed with rfl | later
      · exact (divides_of_token? (not_blank_skipBlanks cursor) found).1
      · exact inductionHypothesis other later

end Cursor

namespace TokenStream

theorem lexed_ofString (source : String) : (ofString source).Lexed :=
  Cursor.lexed_tokens _

theorem Lexed.of_suffix {stream later : TokenStream} (lexed : stream.Lexed)
    (suffix : later.upcoming <:+ stream.upcoming) : later.Lexed :=
  fun token listed => lexed token (suffix.subset listed)

end TokenStream

/-- The tokens of a text in front of the end of the input. -/
theorem tokenize_dropLast (source : String) :
    (tokenize source).dropLast = (TokenStream.ofString source).upcoming := by
  rw [tokenize, TokenStream.toList, List.dropLast_concat]

/-! ### What a spelling tells -/

namespace Spelled

variable {kind : TokenKind} {literal : List Char}

theorem mem_of_lookup {α β : Type} [BEq α] [LawfulBEq α] {table : List (α × β)}
    {key : α} {value : β} (found : table.lookup key = some value) :
    (key, value) ∈ table := by
  obtain ⟨before, behind, rfl, -⟩ := List.lookup_eq_some_iff.mp found
  exact List.mem_append_right _ List.mem_cons_self

/-- A word is an identifier or a keyword. -/
theorem ofWord_mem (word : String) :
    TokenKind.ofWord word ∈ .ident :: TokenKind.keywords.map Prod.snd := by
  unfold TokenKind.ofWord
  cases found : TokenKind.keywords.lookup word with
  | none => exact List.mem_cons_self
  | some kind =>
      exact List.mem_cons_of_mem _ (List.mem_map_of_mem (f := Prod.snd) (mem_of_lookup found))

/-- The kinds that a spelling other than digits can have. -/
theorem kind_mem (spelled : Spelled kind literal) :
    kind = .int ∧ (∀ char ∈ literal, isDigitChar char = true) ∨
      kind ∈ TokenKind.illegal :: TokenKind.ident ::
        (TokenKind.singles.map Prod.snd ++ TokenKind.doubles.map (·.2.1) ++
          TokenKind.doubles.map (·.2.2) ++ TokenKind.keywords.map Prod.snd) := by
  cases spelled with
  | digits _ isDigit => exact Or.inl ⟨rfl, isDigit⟩
  | illegal => exact Or.inr List.mem_cons_self
  | single listed =>
      have member := List.mem_map_of_mem (f := Prod.snd) (mem_of_lookup listed)
      exact Or.inr (by simp [member])
  | alone listed =>
      have member := List.mem_map_of_mem (f := (·.2.1)) (mem_of_lookup listed)
      exact Or.inr (by simp [member])
  | paired listed =>
      have member := List.mem_map_of_mem (f := (·.2.2)) (mem_of_lookup listed)
      exact Or.inr (by simp [member])
  | word =>
      refine Or.inr (List.mem_cons_of_mem _ ?_)
      rcases List.mem_cons.mp (ofWord_mem (String.ofList literal)) with isIdent | isKeyword
      · rw [isIdent]
        exact List.mem_cons_self
      · exact List.mem_cons_of_mem _ (List.mem_append_right _ isKeyword)

theorem kind_ne_endOfInput (spelled : Spelled kind literal) : kind ≠ .endOfInput := by
  rcases spelled.kind_mem with ⟨isInt, -⟩ | listed
  · rw [isInt]
    decide
  · intro ended
    rw [ended] at listed
    exact absurd listed (by decide)

theorem isDigit_of_int (spelled : Spelled .int literal) :
    ∀ char ∈ literal, isDigitChar char = true := by
  rcases spelled.kind_mem with ⟨-, isDigit⟩ | listed
  · exact isDigit
  · exact absurd listed (by decide)

theorem ne_nil (spelled : Spelled kind literal) : literal ≠ [] := by
  cases spelled with
  | word isNonempty => exact isNonempty
  | digits isNonempty => exact isNonempty
  | _ => exact List.cons_ne_nil _ _

/-- An identifier is a word that is not reserved. -/
theorem isWord_of_ident (spelled : Spelled .ident literal) :
    (∀ char ∈ literal, isWordChar char = true) ∧
      String.ofList literal ∉ TokenKind.keywords.map Prod.fst := by
  generalize isIdent : TokenKind.ident = kind at spelled
  cases spelled with
  | word _ isWord =>
      refine ⟨isWord, fun isKeyword => ?_⟩
      have all : ∀ word ∈ TokenKind.keywords.map Prod.fst, TokenKind.ofWord word ≠ .ident := by
        decide
      exact all _ isKeyword isIdent.symm
  | digits => cases isIdent
  | illegal => cases isIdent
  | single listed =>
      have all : ∀ entry ∈ TokenKind.singles, entry.2 ≠ .ident := by decide
      exact absurd isIdent.symm (all _ (mem_of_lookup listed))
  | alone listed =>
      have all : ∀ entry ∈ TokenKind.doubles, entry.2.1 ≠ .ident := by decide
      exact absurd isIdent.symm (all _ (mem_of_lookup listed))
  | paired listed =>
      have all : ∀ entry ∈ TokenKind.doubles, entry.2.2 ≠ .ident := by decide
      exact absurd isIdent.symm (all _ (mem_of_lookup listed))

/-- A keyword is spelled by its word only. -/
theorem eq_of_keyword (spelled : Spelled kind literal) {word : String}
    (isKeyword : (word, kind) ∈ TokenKind.keywords) : String.ofList literal = word := by
  cases spelled with
  | word =>
      have onlyWord : ∀ entry ∈ TokenKind.keywords, ∀ other ∈ TokenKind.keywords,
          entry.2 = other.2 → entry.1 = other.1 := by decide
      have notIdent : ∀ entry ∈ TokenKind.keywords, entry.2 ≠ .ident := by decide
      unfold TokenKind.ofWord at isKeyword
      cases found : TokenKind.keywords.lookup (String.ofList literal) with
      | none =>
          rw [found] at isKeyword
          exact absurd rfl (notIdent _ isKeyword)
      | some other =>
          rw [found] at isKeyword
          exact onlyWord _ (mem_of_lookup found) _ isKeyword rfl
  | digits | illegal =>
      have notListed : ∀ entry ∈ TokenKind.keywords, entry.2 ∉ [.int, .illegal] := by decide
      exact absurd (by simp) (notListed _ isKeyword)
  | single listed =>
      have apart : ∀ entry ∈ TokenKind.keywords, ∀ other ∈ TokenKind.singles,
          entry.2 ≠ other.2 := by decide
      exact absurd rfl (apart _ isKeyword _ (mem_of_lookup listed))
  | alone listed | paired listed =>
      have apart : ∀ entry ∈ TokenKind.keywords, ∀ other ∈ TokenKind.doubles,
          entry.2 ≠ other.2.1 ∧ entry.2 ≠ other.2.2 := by decide
      have isApart := apart _ isKeyword _ (mem_of_lookup listed)
      simp at isApart

end Spelled

end MonkeySyntax
