import MonkeySyntax.Proofs.Token.Unplaced

/-!
Contract: the tokens of two texts, one behind the other.

Owns:
- texts that nothing is left open in, and closing a text with a semicolon;
- the text of two texts, of which the first one is closed;
- that the tokens of two texts are those of the first one, and those of the second one
  behind it, where no token reaches from one into the other.

Does not own: what a parser makes of the two.
-/

set_option autoImplicit false

namespace MonkeySyntax

open Grammar

/-- Whether a text has no tokens or ends with a semicolon. -/
def EndsClosed (source : String) : Prop :=
  ∀ last ∈ (tokenize source).dropLast.getLast?, last.kind = .semicolon

instance (source : String) : Decidable (EndsClosed source) :=
  inferInstanceAs (Decidable (∀ last ∈ (tokenize source).dropLast.getLast?, last.kind = _))

/-- A text with a semicolon behind it, unless it is closed already. -/
def closedText (source : String) : String :=
  if EndsClosed source then source else source ++ ";"

/-- Two texts in one, where the second one starts behind a semicolon. -/
def joined (first second : String) : String := closedText first ++ second

/-- Blanks in front of a text end a token as well as the text does. -/
theorem bounds_append_of_blanks {kind : TokenKind} {gap behind : List Char}
    (isBlank : ∀ char ∈ gap, isBlankChar char = true) (bounds : Bounds kind behind) :
    Bounds kind (gap ++ behind) := by
  cases gap with
  | nil => exact bounds
  | cons char gap =>
      apply Ending.bounds
      apply ending_of_blank
      intro first isHead
      cases isHead
      exact isBlank char List.mem_cons_self

section

variable {first second : String}

/-- The tokens of a text stay the same in front of another one that its last token is
bounded by, and those of the other one follow. -/
theorem TokenStream.ofString_append_of_bounds
    (bounds : ∀ last ∈ (ofString first).upcoming.getLast?, Bounds last.kind second.toList) :
    ofString (first ++ second) =
      ⟨(ofString first).upcoming ++
          (⟨second.toList, .behind first.toList⟩ : Cursor).tokens.upcoming,
        (⟨second.toList, .behind first.toList⟩ : Cursor).tokens.finish⟩ := by
  obtain ⟨layout, rfl⟩ := exists_layout_of_string first
  rw [ofString_layout] at bounds ⊢
  have boundsPieces : ∀ last ∈ layout.pieces.getLast?,
      Bounds last.kind (layout.closing ++ second.toList) := by
    intro last isLast
    have sameKind := congrArg List.getLast? (kind_tokensBehind [] layout.pieces)
    rw [List.getLast?_map, List.getLast?_map, Option.mem_def.mp isLast] at sameKind
    obtain ⟨token, isToken, isKind⟩ := Option.map_eq_some_iff.mp sameKind
    apply bounds_append_of_blanks layout.isBlank
    rw [← isKind]
    exact bounds token isToken
  unfold ofString Cursor.ofString Cursor.ofList
  have scanned := Cursor.tokens_of_pieces layout.isApart boundsPieces []
  rw [Cursor.tokens_of_blanks layout.isBlank, Place.afterAll_behind, ← List.append_assoc] at scanned
  rw [String.toList_append, String.toList_ofList]
  exact scanned

/-- Behind a closed text the tokens of another one follow. -/
theorem TokenStream.ofString_append (endsClosed : EndsClosed first) (second : String) :
    TokenStream.ofString (first ++ second) =
      ⟨(ofString first).upcoming ++
          (⟨second.toList, .behind first.toList⟩ : Cursor).tokens.upcoming,
        (⟨second.toList, .behind first.toList⟩ : Cursor).tokens.finish⟩ := by
  rw [EndsClosed, tokenize_dropLast] at endsClosed
  apply ofString_append_of_bounds
  intro last isLast
  rw [endsClosed last isLast]
  exact bounds_of_other (by decide) _

/-- A token spelled behind a text, whose last token it bounds, is one token more. -/
theorem TokenStream.upcoming_ofString_spelled {kind : TokenKind}
    (spelled : Spelled kind second.toList)
    (bounds : ∀ last ∈ (ofString first).upcoming.getLast?, Bounds last.kind second.toList) :
    (ofString (first ++ second)).upcoming =
      (ofString first).upcoming ++ [Token.ofPlace (.behind first.toList) kind second] := by
  have atEnd : Bounds kind [] := nofun
  have scanned := Cursor.tokens_of_bounds spelled atEnd (.behind first.toList)
  rw [List.append_nil, String.ofList_toList] at scanned
  rw [ofString_append_of_bounds bounds, scanned]
  change _ ++ _ :: (⟨[], _⟩ : Cursor).tokens.upcoming = _
  rw [Cursor.scan_nil rfl]

/-- An operator or a delimiter of one character behind a text is one token more. -/
theorem TokenStream.upcoming_ofString_single {kind : TokenKind} {char : Char}
    (listed : TokenKind.singles.lookup char = some kind) (isChar : second.toList = [char])
    (first : String) :
    (ofString (first ++ second)).upcoming =
      (ofString first).upcoming ++ [Token.ofPlace (.behind first.toList) kind second] := by
  have all : ∀ entry ∈ TokenKind.singles, entry.1 ≠ '=' ∧ isWordChar entry.1 = false ∧
      isDigitChar entry.1 = false := by decide
  have ending : Ending second.toList := by
    intro other isHead
    rw [isChar] at isHead
    cases isHead
    exact all (char, kind) (Spelled.mem_of_lookup listed)
  have spelled : Spelled kind second.toList := by
    rw [isChar]
    exact .single listed
  exact upcoming_ofString_spelled spelled fun last _ => ending.bounds _

/-- A semicolon behind a text is one token more. -/
theorem TokenStream.ofString_semicolon (first : String) :
    (ofString (first ++ ";")).upcoming =
      (ofString first).upcoming ++ [Token.ofPlace (.behind first.toList) .semicolon ";"] := by
  have listed : TokenKind.singles.lookup ';' = some .semicolon := rfl
  exact upcoming_ofString_single listed rfl first

theorem endsClosed_closedText (first : String) : EndsClosed (closedText first) := by
  unfold closedText
  by_cases endsClosed : EndsClosed first
  · rw [if_pos endsClosed]
    exact endsClosed
  · rw [if_neg endsClosed, EndsClosed, tokenize_dropLast, TokenStream.ofString_semicolon,
      List.getLast?_concat]
    rintro last ⟨⟩
    rfl

end

end MonkeySyntax
