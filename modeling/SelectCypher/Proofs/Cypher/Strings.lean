import SelectCypher.Cypher.Text
import SelectCypher.Proofs.Cypher.Label

namespace SelectCypher

open Lexeme

/-!
# Strings in Cypher text

A Cypher text is read by the rule for its strings: a quote opens one, a backslash
takes the next character as it stands, and a quote without a backslash closes it.
The Cypher text of a well-formed query is read to its end with every string closed,
and its strings are those of the query, from left to right.
-/

namespace Cypher

/-- A character outside strings, or a whole string with its content. -/
inductive Item
  | plain (character : Char)
  | literal (content : List Char)
  deriving Repr, DecidableEq

/-- The content of a string up to its closing quote, and what stands behind. -/
def readString : List Char → Option (List Char × List Char)
  | '\\' :: character :: rest =>
      (readString rest).map (Prod.map (character :: ·) id)
  | '\'' :: rest =>
      some ([], rest)
  | character :: rest =>
      (readString rest).map (Prod.map (character :: ·) id)
  | [] =>
      none

theorem readString_shortens
    {text content behind : List Char}
    (read : readString text = some (content, behind)) :
    behind.length < text.length := by
  fun_induction readString text generalizing content with
  | case1 character rest inductionHypothesis =>
      obtain ⟨⟨inside, later⟩, readRest, same⟩ := Option.map_eq_some_iff.mp read
      cases same
      exact Nat.lt_succ_of_lt (Nat.lt_succ_of_lt (inductionHypothesis readRest))
  | case2 rest =>
      cases read
      simp
  | case3 character rest notEscape notQuote inductionHypothesis =>
      obtain ⟨⟨inside, later⟩, readRest, same⟩ := Option.map_eq_some_iff.mp read
      cases same
      exact Nat.lt_succ_of_lt (inductionHypothesis readRest)
  | case4 =>
      cases read

/-- The items of a text, unless a string in it is never closed. -/
def readItems (text : List Char) : Option (List Item) :=
  match text with
  | '\'' :: rest =>
      match _ : readString rest with
      | some (content, behind) =>
          (readItems behind).map (.literal content :: ·)
      | none =>
          none
  | character :: rest =>
      (readItems rest).map (.plain character :: ·)
  | [] =>
      some []
termination_by text.length
decreasing_by
  · exact Nat.lt_succ_of_lt (readString_shortens (by assumption))
  · exact Nat.lt_succ_self _

namespace Item

/-- The content of a string. -/
def content? : Item → Option (List Char)
  | plain _ => none
  | literal content => some content

/-- A character outside strings. -/
def outside? : Item → Option Char
  | plain character => some character
  | literal _ => none

end Item

/-- The contents of the strings among some items. -/
def literals (items : List Item) : List (List Char) :=
  items.filterMap Item.content?

/-- The text outside the strings, with `none` where a string stands. -/
def outline (items : List Item) : List (Option Char) :=
  items.map Item.outside?

@[simp] theorem literals_nil : literals [] = [] :=
  rfl

@[simp] theorem literals_append (first second : List Item) :
    literals (first ++ second) = literals first ++ literals second :=
  List.filterMap_append

@[simp] theorem outline_append (first second : List Item) :
    outline (first ++ second) = outline first ++ outline second :=
  List.map_append

/-- The items of a text without strings. -/
def plainItems (text : String) : List Item :=
  text.toList.map .plain

@[simp] theorem literals_plainItems (text : String) :
    literals (plainItems text) = [] := by
  simp [literals, plainItems, Item.content?]

@[simp] theorem outline_plainItems (text : String) :
    outline (plainItems text) = text.toList.map some := by
  simp [outline, plainItems, Function.comp_def, Item.outside?]

end Cypher

/-! ## What a query is made of -/

open Cypher

/-- The items of a value in Cypher. -/
def Literal.items : Literal → List Item
  | .string content => [.literal content.toList]
  | value => plainItems value.cypher

/-- The items of a condition in Cypher. -/
def Condition.items : Condition → List Item
  | .comparison column operator value =>
      plainItems (Cypher.property column ++ " " ++ operator.symbol ++ " ") ++ value.items
  | .join connective left right =>
      plainItems "(" ++ left.items ++ plainItems (" " ++ connective.word ++ " ") ++
        right.items ++ plainItems ")"

/-- The items of a filter in Cypher. -/
def filterItems : Option Condition → List Item
  | none => []
  | some condition => plainItems "\nWHERE " ++ condition.items

/-- The items of a query in Cypher. -/
def Query.items (query : Query) : List Item :=
  plainItems ("MATCH (n:" ++ label query.table.text ++ ")") ++
    filterItems query.filter? ++
    plainItems ("\nRETURN " ++ query.selection.cypher)

/-- The string of a value, if it is one. -/
def Literal.strings : Literal → List String
  | .string content => [content]
  | _ => []

/-- The strings that a condition compares with, from left to right. -/
def Condition.strings : Condition → List String
  | .comparison _ _ value => value.strings
  | .join _ left right => left.strings ++ right.strings

/-- The strings of a filter, from left to right. -/
def filterStrings : Option Condition → List String
  | none => []
  | some condition => condition.strings

theorem Literal.literals_items (value : Literal) :
    literals value.items = value.strings.map String.toList := by
  cases value with
  | string content =>
      rfl
  | _ =>
      exact literals_plainItems _

theorem Condition.literals_items (condition : Condition) :
    literals condition.items = condition.strings.map String.toList := by
  induction condition with
  | comparison column operator value =>
      simp [Condition.items, Condition.strings, Literal.literals_items]
  | join connective left right leftHypothesis rightHypothesis =>
      simp [Condition.items, Condition.strings, leftHypothesis, rightHypothesis]

/-- The strings in a query's Cypher text are those of its filter. -/
theorem Query.literals_items (query : Query) :
    literals query.items = (filterStrings query.filter?).map String.toList := by
  cases filtered : query.filter? with
  | none =>
      simp [Query.items, filtered, filterItems, filterStrings]
  | some condition =>
      simp [Query.items, filtered, filterItems, filterStrings,
        condition.literals_items]

/-! ## Queries that differ in strings only -/

/-- A value with nothing left of its string. -/
def Literal.blanked : Literal → Literal
  | .string _ => .string ""
  | value => value

/-- A condition with nothing left of its strings. -/
def Condition.blanked : Condition → Condition
  | .comparison column operator value => .comparison column operator value.blanked
  | .join connective left right => .join connective left.blanked right.blanked

/-- A query with nothing left of its strings. -/
def Query.blanked (query : Query) : Query :=
  { query with filter? := query.filter?.map Condition.blanked }

theorem Condition.outline_blanked (condition : Condition) :
    outline condition.blanked.items = outline condition.items := by
  induction condition with
  | comparison column operator value =>
      cases value <;> simp [Condition.blanked, Condition.items, Literal.blanked,
        Literal.items, outline, Item.outside?]
  | join connective left right leftHypothesis rightHypothesis =>
      simp [Condition.blanked, Condition.items, leftHypothesis, rightHypothesis]

/-- The text outside strings does not depend on them. -/
theorem Query.outline_blanked (query : Query) :
    outline query.blanked.items = outline query.items := by
  cases filtered : query.filter? with
  | none =>
      simp [Query.blanked, Query.items, filtered]
  | some condition =>
      simp [Query.blanked, Query.items, filtered, filterItems,
        condition.outline_blanked]

/-! ## Reading Cypher text -/

namespace Cypher

/-- A text that is read as certain items, whatever follows it. -/
def Reads
    (text : List Char)
    (items : List Item) :
    Prop :=
  ∀ rest, readItems (text ++ rest) = (readItems rest).map (items ++ ·)

namespace Reads

variable {text more : List Char}
variable {items moreItems : List Item}

theorem append
    (reads : Reads text items)
    (readsMore : Reads more moreItems) :
    Reads (text ++ more) (items ++ moreItems) := by
  intro rest
  rw [List.append_assoc, reads, readsMore, Option.map_map]
  congr 1
  funext behind
  exact (List.append_assoc items moreItems behind).symm

/-- A text without quotes is read as its characters. -/
theorem plain
    {text : String}
    (noQuote : '\'' ∉ text.toList) :
    Reads text.toList (plainItems text) := by
  unfold plainItems
  generalize text.toList = characters at noQuote ⊢
  induction characters with
  | nil =>
      intro rest
      simp
  | cons character later inductionHypothesis =>
      simp only [List.mem_cons, not_or] at noQuote
      intro rest
      rw [List.cons_append, readItems.eq_2 _ _ (Ne.symm noQuote.1),
        inductionHypothesis noQuote.2, Option.map_map]
      rfl

end Reads

/-- What was escaped is read back up to the closing quote. -/
theorem readString_escaped (content rest : List Char) :
    readString (escaped content ++ '\'' :: rest) = some (content, rest) := by
  induction content with
  | nil =>
      rfl
  | cons character later inductionHypothesis =>
      by_cases special : character = '\\' ∨ character = '\''
      · have shape :
            escaped (character :: later) = '\\' :: character :: escaped later := by
          simp [escaped, special]
        rw [shape, List.cons_append, List.cons_append, readString,
          inductionHypothesis]
        rfl
      · have shape : escaped (character :: later) = character :: escaped later := by
          simp [escaped, special]
        obtain ⟨notBackslash, notQuote⟩ := not_or.mp special
        rw [shape, List.cons_append,
          readString.eq_3 _ _ (fun _ _ isBackslash => absurd isBackslash notBackslash)
            (fun isQuote => absurd isQuote notQuote), inductionHypothesis]
        rfl

/-- A string in Cypher is read as one string with its content. -/
theorem Reads.string (content : String) :
    Reads (Literal.string content).cypher.toList [.literal content.toList] := by
  intro rest
  have shape :
      (Literal.string content).cypher.toList ++ rest =
        '\'' :: (escaped content.toList ++ '\'' :: rest) := by
    simp [Literal.cypher]
  rw [shape, readItems]
  split
  · rename_i found behind read
    rw [readString_escaped] at read
    cases read
    rfl
  · rename_i unclosed
    rw [readString_escaped] at unclosed
    cases unclosed

end Cypher

/-! ## Cypher text of a well-formed query -/

theorem notMem_quote_of_isNamePart
    {text : List Char}
    (inside : ∀ character ∈ text, Text.isNamePart character = true) :
    '\'' ∉ text := by
  intro member
  exact absurd (inside '\'' member) (by decide)

theorem Cypher.notMem_quote_property
    {name : Identifier}
    (wellFormed : name.WellFormed) :
    '\'' ∉ (property name).toList := by
  simp [property, notMem_quote_of_isNamePart wellFormed.isNamePart]

/-- The characters of numbers. -/
def Cypher.isNumberPart (character : Char) : Bool :=
  character.isDigit || character = '.'

theorem Text.IsNumeral.numberParts
    {digits : List Char}
    (isNumeral : Text.IsNumeral digits) :
    ∀ character ∈ digits, isNumberPart character = true := by
  have digitsOnly :
      ∀ {row : List Char},
        Text.IsDigits row → ∀ character ∈ row, isNumberPart character = true := by
    intro row isDigits character member
    simp [isNumberPart, isDigits.2 character member]
  rcases isNumeral with isDigits | ⟨whole, fraction, rfl, isWhole, isFraction⟩
  · exact digitsOnly isDigits
  · simp only [List.forall_mem_append, List.forall_mem_cons]
    exact ⟨digitsOnly isWhole, by decide, digitsOnly isFraction⟩

theorem Text.IsNumeral.notMem_quote
    {digits : List Char}
    (isNumeral : Text.IsNumeral digits) :
    '\'' ∉ digits := by
  intro member
  exact absurd (isNumeral.numberParts '\'' member) (by decide)

/-- No characters of a condition but those of its strings are quotes. -/
theorem Literal.WellFormed.reads
    {value : Literal}
    (wellFormed : value.WellFormed) :
    Reads value.cypher.toList value.items := by
  cases value with
  | string content =>
      exact .string content
  | number digits =>
      exact .plain wellFormed.notMem_quote
  | bool value =>
      exact .plain (by cases value <;> decide)
  | null =>
      exact .plain (by decide)

theorem Condition.WellFormed.reads
    {condition : Condition}
    (wellFormed : condition.WellFormed) :
    Reads condition.cypher.toList condition.items := by
  induction condition with
  | comparison column operator value =>
      have noQuote :
          '\'' ∉ (property column ++ " " ++ operator.symbol ++ " ").toList := by
        have inSymbol : '\'' ∉ operator.symbol.toList := by
          cases operator <;> decide
        simp [notMem_quote_property wellFormed.1, inSymbol]
      have whole := (Reads.plain noQuote).append wellFormed.2.reads
      simpa only [Condition.cypher, Condition.items, String.toList_append] using whole
  | join connective left right leftHypothesis rightHypothesis =>
      have noQuote : '\'' ∉ (" " ++ connective.word ++ " ").toList := by
        cases connective <;> decide
      have whole :=
        ((((@Reads.plain "(" (by decide)).append
          (leftHypothesis wellFormed.1)).append (.plain noQuote)).append
            (rightHypothesis wellFormed.2)).append (@Reads.plain ")" (by decide))
      simpa only [Condition.cypher, Condition.items, String.toList_append,
        List.append_assoc] using whole

/-- Columns behind the first one, each with a comma before it. -/
def Cypher.furtherColumns (names : List Identifier) : List Char :=
  names.flatMap fun name => ',' :: ' ' :: (property name).toList

theorem Cypher.furtherColumns_cons
    (name : Identifier)
    (later : List Identifier) :
    furtherColumns (name :: later) =
      ',' :: ' ' :: ((property name).toList ++ furtherColumns later) := by
  simp [furtherColumns]

/-- The columns that a query returns, with commas between them. -/
theorem Selection.cypher_columns
    (first : Identifier)
    (more : List Identifier) :
    (Selection.columns (first :: more)).cypher.toList =
      (property first).toList ++ furtherColumns more := by
  induction more generalizing first with
  | nil =>
      simp [Selection.cypher, furtherColumns]
  | cons second later inductionHypothesis =>
      have rest := inductionHypothesis second
      simp only [Selection.cypher, List.map_cons] at rest
      simp only [Selection.cypher, List.map_cons, String.intercalate_cons_cons,
        String.toList_append, rest, furtherColumns_cons, List.append_assoc]
      rfl

theorem Selection.WellFormed.notMem_quote
    {selection : Selection}
    (wellFormed : selection.WellFormed) :
    '\'' ∉ selection.cypher.toList := by
  cases selection with
  | everything =>
      decide
  | columns names =>
      obtain ⟨someNames, nameForm⟩ := wellFormed
      obtain ⟨first, more, rfl⟩ := List.exists_cons_of_ne_nil someNames
      rw [List.forall_mem_cons] at nameForm
      rw [Selection.cypher_columns]
      simp only [furtherColumns, List.mem_append, List.mem_flatMap, List.mem_cons, not_or,
        not_exists, not_and]
      refine ⟨notMem_quote_property nameForm.1, ?_⟩
      intro name member
      exact ⟨by decide, by decide, notMem_quote_property (nameForm.2 name member)⟩

theorem Query.WellFormed.reads_whereLine
    {query : Query}
    (wellFormed : query.WellFormed) :
    Reads (whereLine query.filter?).toList (filterItems query.filter?) := by
  cases filtered : query.filter? with
  | none =>
      exact @Reads.plain "" (by decide)
  | some condition =>
      have whole :=
        (@Reads.plain "\nWHERE " (by decide)).append
          (wellFormed.filter? condition filtered).reads
      simpa only [whereLine, filterItems, String.toList_append] using whole

/-- The Cypher text of a well-formed query is read to its end, all strings closed. -/
theorem Query.WellFormed.readItems_cypher
    {query : Query}
    (wellFormed : query.WellFormed) :
    readItems query.cypher.toList = some query.items := by
  have opening : '\'' ∉ ("MATCH (n:" ++ label query.table.text ++ ")").toList := by
    simp [notMem_quote_of_isNamePart wellFormed.table.isNamePart_label]
  have ending : '\'' ∉ ("\nRETURN " ++ query.selection.cypher).toList := by
    simp [wellFormed.selection.notMem_quote]
  have whole :=
    ((Reads.plain opening).append wellFormed.reads_whereLine).append (.plain ending)
  have shape :
      query.cypher.toList =
        ("MATCH (n:" ++ label query.table.text ++ ")").toList ++
          (whereLine query.filter?).toList ++
          ("\nRETURN " ++ query.selection.cypher).toList := by
    simp only [Query.cypher, String.toList_append, List.append_assoc]
  have read := whole []
  rw [List.append_nil, ← shape, readItems.eq_3, Option.map_some, List.append_nil] at read
  exact read

end SelectCypher
