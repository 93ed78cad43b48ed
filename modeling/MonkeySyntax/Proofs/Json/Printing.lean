import MonkeySyntax.Proofs.Json.Quoting

/-!
Contract: what the text of a JSON value tells, and what a layout adds to it.

Owns:
- induction over the parts of a value, and the text of a list of parts in brackets;
- layouts that write nothing but blanks, and a comma between two items;
- that a value can be told from its text in each such layout;
- that the texts of a value in two such layouts differ in blanks only.

Main statements: the text on one line and the indented text each tell the value, and they are
the same but for spaces and newlines, of which the first has no newline.
-/

set_option autoImplicit false

namespace MonkeySyntax

namespace Json

/-! ### The parts of a value -/

/-- Induction over values, with the items of a list and the values of an object's members. -/
@[elab_as_elim]
theorem parts_induction {motive : Json → Prop} (null : motive .null)
    (bool : ∀ value, motive (.bool value)) (int : ∀ value, motive (.int value))
    (string : ∀ value, motive (.string value))
    (array : ∀ items, (∀ item ∈ items, motive item) → motive (.array items))
    (object : ∀ members, (∀ member ∈ members, motive member.2) → motive (.object members)) :
    ∀ value, motive value :=
  @Json.rec motive (fun items => ∀ item ∈ items, motive item)
    (fun members => ∀ member ∈ members, motive member.2) (fun member => motive member.2)
    null bool int string array object
    (fun _ => nofun) (fun _ _ first others => List.forall_mem_cons.mpr ⟨first, others⟩)
    (fun _ => nofun) (fun _ _ first others => List.forall_mem_cons.mpr ⟨first, others⟩)
    (fun _ _ value => value)

variable {layout : Layout}

/-- The text of a list of pieces between two brackets. -/
def enclosed (layout : Layout) (depth : Nat) (before after : Char) : List (List Char) → List Char
  | [] => [before, after]
  | piece :: pieces =>
      [before] ++ ((layout.opening depth).toList ++ (piece ++
        (pieces.flatMap ((layout.separator depth).toList ++ ·) ++
          ((layout.closing depth).toList ++ [after]))))

/-- The text of a member of an object. -/
def memberText (layout : Layout) (depth : Nat) (member : String × Json) : List Char :=
  (quote member.1).toList ++ ([':', ' '] ++ (member.2.print layout depth).toList)

theorem toList_printItems (layout : Layout) (depth : Nat) (items : List Json) :
    (printItems layout depth items).toList =
      (items.map fun item => (item.print layout (depth + 1)).toList).flatMap
        ((layout.separator depth).toList ++ ·) := by
  induction items with
  | nil => simp [printItems]
  | cons item items inductionHypothesis => simp [printItems, inductionHypothesis]

theorem toList_printMembers (layout : Layout) (depth : Nat) (members : List (String × Json)) :
    (printMembers layout depth members).toList =
      (members.map (memberText layout (depth + 1))).flatMap
        ((layout.separator depth).toList ++ ·) := by
  induction members with
  | nil => simp [printMembers]
  | cons member members inductionHypothesis =>
      simp [printMembers, inductionHypothesis, memberText]

theorem toList_print_array (layout : Layout) (depth : Nat) (items : List Json) :
    ((array items).print layout depth).toList =
      enclosed layout depth '[' ']'
        (items.map fun item => (item.print layout (depth + 1)).toList) := by
  cases items with
  | nil => simp [print, enclosed]
  | cons item items => simp [print, enclosed, toList_printItems]

theorem toList_print_object (layout : Layout) (depth : Nat) (members : List (String × Json)) :
    ((object members).print layout depth).toList =
      enclosed layout depth '{' '}' (members.map (memberText layout (depth + 1))) := by
  cases members with
  | nil => simp [print, enclosed]
  | cons member members => simp [print, enclosed, memberText, toList_printMembers]

/-! ### Layouts -/

namespace Layout

/-- The characters that a layout puts between the parts of a value. -/
def blanks : List Char := [' ', '\n']

/-- Whether a layout writes nothing but blanks, and a comma between two items. -/
structure Airy (layout : Layout) : Prop where
  opening (depth : Nat) : (layout.opening depth).toList ⊆ blanks
  separator (depth : Nat) :
    ∃ behind, (layout.separator depth).toList = ',' :: behind ∧ behind ⊆ blanks
  closing (depth : Nat) : (layout.closing depth).toList ⊆ blanks

theorem newLine_subset (width depth : Nat) : (newLine width depth).toList ⊆ blanks := by
  intro char listed
  rw [newLine, String.toList_ofList, List.mem_cons, List.mem_replicate] at listed
  rcases listed with rfl | ⟨-, rfl⟩ <;> decide

theorem airy_oneLine : oneLine.Airy where
  opening _ := by simp [oneLine]
  separator _ := ⟨[' '], by simp [oneLine], by decide⟩
  closing _ := by simp [oneLine]

theorem airy_indented (width : Nat) : (indented width).Airy where
  opening _ := newLine_subset _ _
  separator depth :=
    ⟨(newLine width (depth + 1)).toList, by simp [indented], newLine_subset _ _⟩
  closing _ := newLine_subset _ _

end Layout

open Layout (blanks)

/-- The characters that can follow a value. -/
def followers : List Char := [',', ']', '}'] ++ blanks

theorem not_isNumberChar_of_follows {char : Char} (follows : char ∈ followers) :
    isNumberChar char = false := by
  have noneIsNumberChar : followers.any isNumberChar = false := by decide
  simpa using List.any_eq_false.mp noneIsNumberChar char follows

/-! ### What the first character tells -/

/-- A value but for the parts of which it is made. -/
inductive Shape where
  | null
  | bool (value : Bool)
  | int
  | string
  | array
  | object

/-- The shape of a value. -/
def shape : Json → Shape
  | .null => .null
  | .bool value => .bool value
  | .int _ => .int
  | .string _ => .string
  | .array _ => .array
  | .object _ => .object

/-- The shape of the values whose text starts with a character. -/
def Shape.ofChar (char : Char) : Shape :=
  if isNumberChar char then .int
  else if char = 'n' then .null
  else if char = 't' then .bool true
  else if char = 'f' then .bool false
  else if char = '"' then .string
  else if char = '[' then .array
  else .object

/-- The text of a value starts with a character that tells its shape. -/
theorem exists_shape (value : Json) (depth : Nat) :
    ∃ char behind, (value.print layout depth).toList = char :: behind ∧
      Shape.ofChar char = value.shape ∧ char ∉ followers := by
  cases value with
  | null => exact ⟨'n', ['u', 'l', 'l'], by simp [print], rfl, by decide⟩
  | bool value =>
      cases value with
      | false => exact ⟨'f', ['a', 'l', 's', 'e'], by simp [print], rfl, by decide⟩
      | true => exact ⟨'t', ['r', 'u', 'e'], by simp [print], rfl, by decide⟩
  | int value =>
      obtain ⟨char, behind, isText⟩ := List.exists_cons_of_ne_nil (toString_int_ne_nil value)
      have isNumber : isNumberChar char = true :=
        isNumberChar_of_mem (isText ▸ List.mem_cons_self)
      refine ⟨char, behind, by rw [print, isText], if_pos isNumber, ?_⟩
      exact fun follows =>
        Bool.false_ne_true ((not_isNumberChar_of_follows follows).symm.trans isNumber)
  | string text => exact ⟨'"', _, by rw [print, toList_quote], rfl, by decide⟩
  | array items =>
      rw [toList_print_array]
      cases items <;> exact ⟨'[', _, rfl, rfl, by decide⟩
  | object members =>
      rw [toList_print_object]
      cases members <;> exact ⟨'{', _, rfl, rfl, by decide⟩

variable {rest other : List Char}

theorem shape_eq_of_print {first second : Json} {depth : Nat}
    (same : (first.print layout depth).toList ++ rest =
      (second.print layout depth).toList ++ other) : first.shape = second.shape := by
  obtain ⟨_, _, isText, isShape, -⟩ := exists_shape first depth
  obtain ⟨_, _, isTextToo, isShapeToo, -⟩ := exists_shape second depth
  rw [isText, isTextToo] at same
  rw [← isShape, (List.cons.inj same).1, isShapeToo]

/-! ### Where the text of a value ends -/

/-- Whether a text goes on, if at all, with a character that can follow a value. -/
def Ends (text : List Char) : Prop :=
  ∀ char ∈ text.head?, char ∈ followers

theorem ends_nil : Ends [] := fun _ => by simp

theorem ends_cons {char : Char} (isEnd : char ∈ followers) :
    Ends (char :: rest) := by
  rintro _ ⟨⟩
  exact isEnd

theorem ends_blanks_append {gap : List Char} (areBlank : gap ⊆ blanks) (ends : Ends rest) :
    Ends (gap ++ rest) := by
  cases gap with
  | nil => exact ends
  | cons char gap => exact ends_cons (List.mem_append_right _ (areBlank List.mem_cons_self))

theorem Ends.stops (ends : Ends rest) : ∀ char ∈ rest.head?, isNumberChar char = false :=
  fun char isHead => not_isNumberChar_of_follows (ends char isHead)

/-- Whether an item can be told from its text and what is behind it. -/
def Tells {α : Type} (write : α → List Char) (item : α) : Prop :=
  ∀ ⦃another : α⦄ ⦃rest other : List Char⦄, Ends rest → Ends other →
    write item ++ rest = write another ++ other → item = another ∧ rest = other

/-! ### Lists of items -/

section Lists

variable {α : Type} {write : α → List Char} {first second : List α}

/-- Blanks in front of a text do not make it start with something else. -/
theorem blanks_append_ne {gap text : List Char} {char : Char} (areBlank : gap ⊆ blanks)
    (notBlank : char ∉ blanks) (notHead : ∀ behind, text ≠ char :: behind)
    (behind : List Char) : gap ++ text ≠ char :: behind := by
  intro same
  cases gap with
  | nil => exact notHead behind same
  | cons blank gap => exact notBlank ((List.cons.inj same).1 ▸ areBlank List.mem_cons_self)

theorem ends_separated {behind : List Char} (pieces : List (List Char)) (ends : Ends rest) :
    Ends (pieces.flatMap (',' :: behind ++ ·) ++ rest) := by
  cases pieces with
  | nil => exact ends
  | cons => exact ends_cons (by decide)

/-- Items with a comma in front of each can be told from their text, if no comma is behind it. -/
theorem separated_append_inj {behind : List Char} (tells : ∀ item ∈ first, Tells write item)
    (ends : Ends rest) (endsToo : Ends other)
    (noComma : ∀ behind, rest ≠ ',' :: behind) (noCommaToo : ∀ behind, other ≠ ',' :: behind)
    (same : (first.map write).flatMap (',' :: behind ++ ·) ++ rest =
      (second.map write).flatMap (',' :: behind ++ ·) ++ other) :
    first = second ∧ rest = other := by
  induction first generalizing second with
  | nil =>
      cases second with
      | nil => exact ⟨rfl, same⟩
      | cons => exact absurd same (noComma _)
  | cons item items inductionHypothesis =>
      cases second with
      | nil => exact absurd same.symm (noCommaToo _)
      | cons another others =>
          simp only [List.map_cons, List.flatMap_cons, List.append_assoc] at same
          obtain ⟨tellsItem, tellsItems⟩ := List.forall_mem_cons.mp tells
          obtain ⟨rfl, sameBehind⟩ := tellsItem (ends_separated _ ends) (ends_separated _ endsToo)
            (List.append_cancel_left same)
          obtain ⟨rfl, sameRest⟩ := inductionHypothesis tellsItems sameBehind
          exact ⟨rfl, sameRest⟩

/-- Items between brackets can be told from their text, if none starts like something that can
follow a value. -/
theorem enclosed_append_inj (airy : layout.Airy) {depth : Nat} {before after : Char}
    (isBracket : after = ']' ∨ after = '}') (notEnd : ∀ item text, ¬Ends (write item ++ text))
    (tells : ∀ item ∈ first, Tells write item)
    (same : enclosed layout depth before after (first.map write) ++ rest =
      enclosed layout depth before after (second.map write) ++ other) :
    first = second ∧ rest = other := by
  obtain ⟨canFollow, notBlank, notComma⟩ : after ∈ followers ∧ after ∉ blanks ∧ after ≠ ',' := by
    rcases isBracket with rfl | rfl <;> decide
  have filled (item : α) (text behind : List Char) :
      (layout.opening depth).toList ++ (write item ++ text) ≠ after :: behind :=
    blanks_append_ne (airy.opening depth) notBlank
      (fun _ same => notEnd item text (by rw [same]; exact ends_cons canFollow)) behind
  have ends (rest : List Char) : Ends ((layout.closing depth).toList ++ after :: rest) :=
    ends_blanks_append (airy.closing depth) (ends_cons canFollow)
  have noComma (rest behind : List Char) :
      (layout.closing depth).toList ++ after :: rest ≠ ',' :: behind :=
    blanks_append_ne (airy.closing depth) (by decide)
      (fun _ same => notComma (List.cons.inj same).1) behind
  obtain ⟨behind, isSeparator, -⟩ := airy.separator depth
  cases first <;> cases second <;>
    simp only [enclosed, List.map_nil, List.map_cons, List.cons_append, List.append_assoc,
      List.nil_append, List.cons.injEq, true_and, isSeparator] at same
  case nil.nil => exact ⟨rfl, same⟩
  case nil.cons another others => exact absurd same.symm (filled another _ _)
  case cons.nil item items => exact absurd same (filled item _ _)
  case cons.cons item items another others =>
    obtain ⟨tellsItem, tellsItems⟩ := List.forall_mem_cons.mp tells
    obtain ⟨rfl, sameBehind⟩ := tellsItem (ends_separated _ (ends rest))
      (ends_separated _ (ends other)) (List.append_cancel_left same)
    obtain ⟨rfl, sameClosing⟩ := separated_append_inj tellsItems (ends rest) (ends other)
      (noComma rest) (noComma other) sameBehind
    exact ⟨rfl, (List.cons.inj (List.append_cancel_left sameClosing)).2⟩

end Lists

/-! ### What the text of a value tells -/

theorem not_ends_print (value : Json) (depth : Nat) (text : List Char) :
    ¬Ends ((value.print layout depth).toList ++ text) := by
  obtain ⟨char, behind, isText, -, notEnd⟩ := exists_shape value depth
  rw [isText]
  exact fun ends => notEnd (ends char rfl)

theorem not_ends_memberText (member : String × Json) (depth : Nat) (text : List Char) :
    ¬Ends (memberText layout depth member ++ text) := by
  rw [memberText, toList_quote]
  exact fun ends => absurd (ends '"' rfl) (by decide)

theorem tells_memberText {member : String × Json} {depth : Nat}
    (tells : Tells (fun value => (print layout depth value).toList) member.2) :
    Tells (memberText layout depth) member := by
  intro another rest other ends endsToo same
  simp only [memberText, List.append_assoc] at same
  obtain ⟨sameKey, sameBehind⟩ := quote_append_inj same
  obtain ⟨sameValue, sameRest⟩ := tells ends endsToo (List.append_cancel_left sameBehind)
  exact ⟨Prod.ext sameKey sameValue, sameRest⟩

/-- A value can be told from its text, whatever is behind it that can follow a value. -/
theorem tells_print (airy : layout.Airy) (value : Json) (depth : Nat) :
    Tells (fun value => (print layout depth value).toList) value := by
  -- The first character of the text leaves only values of the same shape.
  induction value using parts_induction generalizing depth with
  | null =>
      intro another rest other ends endsToo same
      have sameShape := shape_eq_of_print same
      cases another with
      | null => exact ⟨rfl, List.append_cancel_left same⟩
      | _ => cases sameShape
  | bool value =>
      intro another rest other ends endsToo same
      have sameShape := shape_eq_of_print same
      cases another with
      | bool =>
          cases sameShape
          exact ⟨rfl, List.append_cancel_left same⟩
      | _ => cases sameShape
  | int value =>
      intro another rest other ends endsToo same
      have sameShape := shape_eq_of_print same
      cases another with
      | int =>
          simp only [print] at same
          obtain ⟨rfl, sameRest⟩ := toString_append_inj ends.stops endsToo.stops same
          exact ⟨rfl, sameRest⟩
      | _ => cases sameShape
  | string text =>
      intro another rest other ends endsToo same
      have sameShape := shape_eq_of_print same
      cases another with
      | string =>
          simp only [print] at same
          obtain ⟨rfl, sameRest⟩ := quote_append_inj same
          exact ⟨rfl, sameRest⟩
      | _ => cases sameShape
  | array items inductionHypothesis =>
      intro another rest other ends endsToo same
      have sameShape := shape_eq_of_print same
      cases another with
      | array =>
          simp only [toList_print_array] at same
          obtain ⟨rfl, sameRest⟩ := enclosed_append_inj airy (Or.inl rfl)
            (fun item => not_ends_print item _)
            (fun item isItem => inductionHypothesis item isItem _) same
          exact ⟨rfl, sameRest⟩
      | _ => cases sameShape
  | object members inductionHypothesis =>
      intro another rest other ends endsToo same
      have sameShape := shape_eq_of_print same
      cases another with
      | object =>
          simp only [toList_print_object] at same
          obtain ⟨rfl, sameRest⟩ := enclosed_append_inj airy (Or.inr rfl)
            (fun member => not_ends_memberText member _)
            (fun member isMember => tells_memberText (inductionHypothesis member isMember _)) same
          exact ⟨rfl, sameRest⟩
      | _ => cases sameShape

theorem print_injective (airy : layout.Airy) (depth : Nat) :
    Function.Injective fun value => print layout depth value := by
  intro first second same
  have sameText : (first.print layout depth).toList ++ [] =
      (second.print layout depth).toList ++ [] := by rw [show first.print _ _ = _ from same]
  exact (tells_print airy first depth ends_nil ends_nil sameText).1

/-- Values are the same if their texts on one line are. -/
theorem oneLine_inj {first second : Json} : first.oneLine = second.oneLine ↔ first = second :=
  (print_injective Layout.airy_oneLine 0).eq_iff

/-- Values are the same if their indented texts are. -/
theorem indented_inj {first second : Json} : first.indented = second.indented ↔ first = second :=
  (print_injective (Layout.airy_indented 2) 0).eq_iff

/-! ### What a layout adds -/

/-- A text without some characters. -/
def without (deleted text : List Char) : List Char :=
  text.filter (· ∉ deleted)

theorem without_append (deleted first second : List Char) :
    without deleted (first ++ second) = without deleted first ++ without deleted second :=
  List.filter_append ..

theorem without_blanks {gap : List Char} (areBlank : gap ⊆ blanks) : without blanks gap = [] :=
  List.filter_eq_nil_iff.mpr fun char listed => by simpa using areBlank listed

theorem without_separated (separator : List Char) (pieces : List (List Char)) :
    without blanks (pieces.flatMap (separator ++ ·)) =
      (pieces.map (without blanks)).flatMap (without blanks separator ++ ·) := by
  induction pieces with
  | nil => rfl
  | cons piece pieces inductionHypothesis =>
      simp [without_append, inductionHypothesis]

theorem Layout.Airy.without_separator (airy : layout.Airy) (depth : Nat) :
    without blanks (layout.separator depth).toList = [','] := by
  obtain ⟨behind, isSeparator, areBlank⟩ := airy.separator depth
  rw [isSeparator, without, List.filter_cons_of_pos (by decide)]
  exact congrArg _ (without_blanks areBlank)

/-- Without blanks, the text of a list in brackets does not depend on the layout. -/
theorem without_enclosed (airy : layout.Airy) (depth : Nat) (before after : Char)
    (piece : List Char) (pieces : List (List Char)) :
    without blanks (enclosed layout depth before after (piece :: pieces)) =
      without blanks [before] ++ (without blanks piece ++
        ((pieces.map (without blanks)).flatMap ([','] ++ ·) ++ without blanks [after])) := by
  simp only [enclosed, without_append, without_separated, airy.without_separator,
    without_blanks (airy.opening depth), without_blanks (airy.closing depth), List.nil_append]

theorem without_enclosed_congr {another : Layout} (airy : layout.Airy) (airyToo : another.Airy)
    {before after : Char} {depth anotherDepth : Nat} {pieces others : List (List Char)}
    (same : pieces.map (without blanks) = others.map (without blanks)) :
    without blanks (enclosed layout depth before after pieces) =
      without blanks (enclosed another anotherDepth before after others) := by
  cases pieces <;> cases others
  case nil.nil => rfl
  case nil.cons => cases same
  case cons.nil => cases same
  case cons.cons piece pieces other others =>
    rw [List.map_cons, List.map_cons, List.cons.injEq] at same
    rw [without_enclosed airy, without_enclosed airyToo, same.1, same.2]

/-- In such layouts, the texts of a value differ in blanks only. -/
theorem without_print {another : Layout} (airy : layout.Airy) (airyToo : another.Airy)
    (value : Json) (depth anotherDepth : Nat) :
    without blanks (value.print layout depth).toList =
      without blanks (value.print another anotherDepth).toList := by
  induction value using parts_induction generalizing depth anotherDepth with
  | null => rfl
  | bool value => cases value <;> rfl
  | int value => rfl
  | string text => rfl
  | array items inductionHypothesis =>
      rw [toList_print_array, toList_print_array]
      refine without_enclosed_congr airy airyToo ?_
      rw [List.map_map, List.map_map]
      exact List.map_congr_left fun item isItem => inductionHypothesis item isItem _ _
  | object members inductionHypothesis =>
      rw [toList_print_object, toList_print_object]
      refine without_enclosed_congr airy airyToo ?_
      rw [List.map_map, List.map_map]
      refine List.map_congr_left fun member isMember => ?_
      simp only [Function.comp_apply, memberText, without_append,
        inductionHypothesis member isMember (depth + 1) (anotherDepth + 1)]

theorem newline_notMem_enclosed {depth : Nat} {before after : Char} {pieces : List (List Char)}
    (notBracket : before ≠ '\n' ∧ after ≠ '\n') (notPiece : ∀ piece ∈ pieces, '\n' ∉ piece) :
    '\n' ∉ enclosed .oneLine depth before after pieces := by
  cases pieces with
  | nil => simp [enclosed, notBracket.1.symm, notBracket.2.symm]
  | cons piece pieces =>
      obtain ⟨notFirst, notOthers⟩ := List.forall_mem_cons.mp notPiece
      simpa [enclosed, Layout.oneLine, notBracket.1.symm, notBracket.2.symm, notFirst]
        using notOthers

theorem newline_notMem_print (value : Json) (depth : Nat) :
    '\n' ∉ (value.print .oneLine depth).toList := by
  induction value using parts_induction generalizing depth with
  | null => simp [print]
  | bool value => cases value <;> simp [print]
  | int value =>
      rw [print]
      exact fun listed => absurd (isNumberChar_of_mem listed) (by decide)
  | string text =>
      rw [print]
      exact newline_notMem_quote text
  | array items inductionHypothesis =>
      rw [toList_print_array]
      refine newline_notMem_enclosed (by decide) (List.forall_mem_map.mpr fun item isItem => ?_)
      exact inductionHypothesis item isItem _
  | object members inductionHypothesis =>
      rw [toList_print_object]
      refine newline_notMem_enclosed (by decide) (List.forall_mem_map.mpr fun member isMember => ?_)
      simpa [memberText, newline_notMem_quote] using inductionHypothesis member isMember (depth + 1)

/-- The indented text and the text on one line are the same but for spaces and newlines, and the
latter has no newline. -/
theorem without_indented (value : Json) :
    without [' ', '\n'] value.indented.toList = without [' '] value.oneLine.toList := by
  have noNewline : without blanks value.oneLine.toList = without [' '] value.oneLine.toList := by
    refine List.filter_congr fun char listed => ?_
    have notNewline : char ≠ '\n' := fun isNewline =>
      newline_notMem_print value 0 (isNewline ▸ listed)
    simp [blanks, notNewline]
  rw [← noNewline]
  exact without_print (Layout.airy_indented 2) Layout.airy_oneLine value 0 0

end Json

end MonkeySyntax
