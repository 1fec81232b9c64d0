import SelectCypher.Proofs.Cypher.Strings
import SelectCypher.Proofs.Query.Formed
import SelectCypher.Proofs.Text.Runs

namespace SelectCypher

open Cypher Lexeme

/-!
# Cypher text determines its query

Each part of a Cypher text shows where it ends: a name before the first character
that stands in no name, a string at its closing quote, a joined condition at its
parenthesis.  So two well-formed queries with the same Cypher text differ in nothing
but the letter case of their tables.
-/

/-! ## Names and values -/

/-- A property with any text behind it that does not extend the name. -/
theorem Cypher.property_append_inj
    {name other : Identifier}
    {rest tail : List Char}
    (wellFormed : name.WellFormed)
    (otherWellFormed : other.WellFormed)
    (stops : ∀ next ∈ rest.head?, Text.isNamePart next = false)
    (otherStops : ∀ next ∈ tail.head?, Text.isNamePart next = false)
    (same : (property name).toList ++ rest = (property other).toList ++ tail) :
    name = other ∧ rest = tail := by
  simp only [property, String.toList_append, List.append_assoc,
    List.append_cancel_left_eq] at same
  obtain ⟨sameText, sameRest⟩ :=
    Text.run_unique wellFormed.isNamePart otherWellFormed.isNamePart stops otherStops same
  exact ⟨congrArg Identifier.mk (String.toList_injective sameText), sameRest⟩

/-- The value that a text begins with. -/
def Cypher.valueOf? : List Char → Option Literal
  | '\'' :: rest => (readString rest).map fun read => .string (String.ofList read.1)
  | 't' :: _ => some (.bool true)
  | 'f' :: _ => some (.bool false)
  | 'n' :: _ => some .null
  | text => some (.number (String.ofList (text.takeWhile isNumberPart)))

theorem Text.IsNumeral.exists_digit
    {digits : List Char}
    (isNumeral : Text.IsNumeral digits) :
    ∃ first rest, digits = first :: rest ∧ first.isDigit = true := by
  have opens :
      ∀ {row : List Char},
        Text.IsDigits row →
        ∃ first rest, row = first :: rest ∧ first.isDigit = true := by
    intro row isDigits
    obtain ⟨first, rest, rfl⟩ := List.exists_cons_of_ne_nil isDigits.1
    exact ⟨first, rest, rfl, isDigits.2 first List.mem_cons_self⟩
  rcases isNumeral with isDigits | ⟨whole, fraction, rfl, isWhole, -⟩
  · exact opens isDigits
  · obtain ⟨first, rest, rfl, digit⟩ := opens isWhole
    exact ⟨first, _, rfl, digit⟩

/-- A value is read back from the text that begins with it. -/
theorem Literal.WellFormed.valueOf?_cypher
    {value : Literal}
    {rest : List Char}
    (wellFormed : value.WellFormed)
    (stops : ∀ next ∈ rest.head?, isNumberPart next = false) :
    valueOf? (value.cypher.toList ++ rest) = some value := by
  cases value with
  | string content =>
      simp [Literal.cypher, valueOf?, readString_escaped]
  | number digits =>
      have isNumeral : Text.IsNumeral digits.toList := wellFormed
      obtain ⟨first, later, shape, digit⟩ := isNumeral.exists_digit
      have opensOtherwise :
          ∀ mark : Char,
            mark.isDigit = false →
            ∀ behind, digits.toList ++ rest = mark :: behind → False := by
        intro mark noDigit behind opens
        rw [shape, List.cons_append, List.cons.injEq] at opens
        rw [opens.1, noDigit] at digit
        cases digit
      rw [Literal.cypher, valueOf?.eq_5 _ (opensOtherwise _ rfl) (opensOtherwise _ rfl)
        (opensOtherwise _ rfl) (opensOtherwise _ rfl),
        takeWhile_append_of_head? isNumeral.numberParts stops, String.ofList_toList]
  | bool value =>
      cases value <;> rfl
  | null =>
      rfl

/-- A value with any text behind it that does not extend a number. -/
theorem Literal.WellFormed.cypher_append_inj
    {value other : Literal}
    {rest tail : List Char}
    (wellFormed : value.WellFormed)
    (otherWellFormed : other.WellFormed)
    (stops : ∀ next ∈ rest.head?, isNumberPart next = false)
    (otherStops : ∀ next ∈ tail.head?, isNumberPart next = false)
    (same : value.cypher.toList ++ rest = other.cypher.toList ++ tail) :
    value = other ∧ rest = tail := by
  have sameValue : value = other := by
    apply Option.some.inj
    rw [← wellFormed.valueOf?_cypher stops, same,
      otherWellFormed.valueOf?_cypher otherStops]
  rw [sameValue] at same
  exact ⟨sameValue, List.append_cancel_left same⟩

/-! ## Conditions -/

theorem Operator.symbol_injective
    {operator other : Operator}
    (same : operator.symbol = other.symbol) :
    operator = other := by
  revert same
  cases operator <;> cases other <;> decide

theorem Connective.word_injective
    {connective other : Connective}
    (same : connective.word = other.word) :
    connective = other := by
  revert same
  cases connective <;> cases other <;> decide

theorem Condition.cypher_comparison
    (column : Identifier)
    (operator : Operator)
    (value : Literal)
    (rest : List Char) :
    (Condition.comparison column operator value).cypher.toList ++ rest =
      (property column).toList ++ ' ' :: (operator.symbol.toList ++ ' ' ::
        (value.cypher.toList ++ rest)) := by
  simp [Condition.cypher]

theorem Condition.cypher_join
    (connective : Connective)
    (left right : Condition)
    (rest : List Char) :
    (Condition.join connective left right).cypher.toList ++ rest =
      '(' :: (left.cypher.toList ++ ' ' :: (connective.word.toList ++ ' ' ::
        (right.cypher.toList ++ ')' :: rest))) := by
  simp [Condition.cypher]

/-- A condition with any text behind it that does not extend a number. -/
theorem Condition.WellFormed.cypher_append_inj
    {condition other : Condition}
    {rest tail : List Char}
    (wellFormed : condition.WellFormed)
    (otherWellFormed : other.WellFormed)
    (stops : ∀ next ∈ rest.head?, isNumberPart next = false)
    (otherStops : ∀ next ∈ tail.head?, isNumberPart next = false)
    (same : condition.cypher.toList ++ rest = other.cypher.toList ++ tail) :
    condition = other ∧ rest = tail := by
  -- The text behind stays free: an operand has the rest of its join behind it.
  induction condition generalizing other rest tail with
  | comparison column operator value =>
      cases other with
      | comparison otherColumn otherOperator otherValue =>
          have noSpace : ∀ operator : Operator, ' ' ∉ operator.symbol.toList := by
            intro operator
            cases operator <;> decide
          simp only [Condition.cypher_comparison] at same
          obtain ⟨sameColumn, behindColumn⟩ :=
            property_append_inj wellFormed.1 otherWellFormed.1 (Text.stops_cons rfl)
              (Text.stops_cons rfl) same
          obtain ⟨sameSymbol, behindSymbol⟩ :=
            Text.append_mark_inj (noSpace _) (noSpace _) (List.cons.inj behindColumn).2
          obtain ⟨sameValue, sameRest⟩ :=
            wellFormed.2.cypher_append_inj otherWellFormed.2 stops otherStops behindSymbol
          have sameOperator := Operator.symbol_injective (String.toList_injective sameSymbol)
          rw [sameColumn, sameOperator, sameValue]
          exact ⟨rfl, sameRest⟩
      | join otherConnective otherLeft otherRight =>
          rw [Condition.cypher_comparison, Condition.cypher_join] at same
          simp [property] at same
  | join connective left right leftHypothesis rightHypothesis =>
      cases other with
      | comparison otherColumn otherOperator otherValue =>
          rw [Condition.cypher_comparison, Condition.cypher_join] at same
          simp [property] at same
      | join otherConnective otherLeft otherRight =>
          have noSpace : ∀ connective : Connective, ' ' ∉ connective.word.toList := by
            intro connective
            cases connective <;> decide
          simp only [Condition.cypher_join] at same
          obtain ⟨sameLeft, behindLeft⟩ :=
            leftHypothesis wellFormed.1 otherWellFormed.1 (Text.stops_cons rfl)
              (Text.stops_cons rfl) (List.cons.inj same).2
          obtain ⟨sameWord, behindWord⟩ :=
            Text.append_mark_inj (noSpace _) (noSpace _) (List.cons.inj behindLeft).2
          obtain ⟨sameRight, behindRight⟩ :=
            rightHypothesis wellFormed.2 otherWellFormed.2 (Text.stops_cons rfl)
              (Text.stops_cons rfl) behindWord
          have sameConnective := Connective.word_injective (String.toList_injective sameWord)
          rw [sameLeft, sameConnective, sameRight]
          exact ⟨rfl, (List.cons.inj behindRight).2⟩

/-! ## Selections -/

/-- A name in a list of columns ends where the further columns begin. -/
theorem Cypher.furtherColumns_stops (names : List Identifier) :
    ∀ next ∈ (furtherColumns names).head?, Text.isNamePart next = false := by
  cases names with
  | nil =>
      intro next isNext
      cases isNext
  | cons name later =>
      rw [furtherColumns_cons]
      exact Text.stops_cons rfl

theorem Cypher.columns_inj
    {first other : Identifier}
    {more others : List Identifier}
    (wellFormed : ∀ name ∈ first :: more, name.WellFormed)
    (otherWellFormed : ∀ name ∈ other :: others, name.WellFormed)
    (same :
      (property first).toList ++ furtherColumns more =
        (property other).toList ++ furtherColumns others) :
    first :: more = other :: others := by
  induction more generalizing first other others with
  | nil =>
      rw [List.forall_mem_cons] at wellFormed otherWellFormed
      obtain ⟨sameFirst, sameMore⟩ :=
        property_append_inj wellFormed.1 otherWellFormed.1 (furtherColumns_stops _)
          (furtherColumns_stops _) same
      cases others with
      | nil =>
          rw [sameFirst]
      | cons second later =>
          rw [furtherColumns_cons] at sameMore
          cases sameMore
  | cons second later inductionHypothesis =>
      rw [List.forall_mem_cons] at wellFormed otherWellFormed
      obtain ⟨sameFirst, sameMore⟩ :=
        property_append_inj wellFormed.1 otherWellFormed.1 (furtherColumns_stops _)
          (furtherColumns_stops _) same
      cases others with
      | nil =>
          rw [furtherColumns_cons] at sameMore
          cases sameMore
      | cons otherSecond otherLater =>
          simp only [furtherColumns_cons, List.cons.injEq, true_and] at sameMore
          rw [sameFirst, inductionHypothesis wellFormed.2 otherWellFormed.2 sameMore]

theorem Selection.WellFormed.cypher_inj
    {selection other : Selection}
    (wellFormed : selection.WellFormed)
    (otherWellFormed : other.WellFormed)
    (same : selection.cypher.toList = other.cypher.toList) :
    selection = other := by
  cases selection with
  | everything =>
      cases other with
      | everything =>
          rfl
      | columns names =>
          obtain ⟨first, more, rfl⟩ := List.exists_cons_of_ne_nil otherWellFormed.1
          rw [Selection.cypher_columns] at same
          simp [Selection.cypher, property] at same
  | columns names =>
      obtain ⟨first, more, rfl⟩ := List.exists_cons_of_ne_nil wellFormed.1
      rw [Selection.cypher_columns] at same
      cases other with
      | everything =>
          simp [Selection.cypher, property] at same
      | columns otherNames =>
          obtain ⟨otherFirst, otherMore, rfl⟩ :=
            List.exists_cons_of_ne_nil otherWellFormed.1
          rw [Selection.cypher_columns] at same
          rw [columns_inj wellFormed.2 otherWellFormed.2 same]

/-! ## Queries -/

/-- A filter's line with the line of the returned columns behind it. -/
theorem Cypher.whereLine_append_inj
    {filter? other? : Option Condition}
    {rest tail : List Char}
    (wellFormed : ∀ condition ∈ filter?, condition.WellFormed)
    (otherWellFormed : ∀ condition ∈ other?, condition.WellFormed)
    (same :
      (whereLine filter?).toList ++ '\n' :: 'R' :: rest =
        (whereLine other?).toList ++ '\n' :: 'R' :: tail) :
    filter? = other? ∧ rest = tail := by
  cases filter? with
  | none =>
      cases other? with
      | none =>
          simpa [whereLine] using same
      | some otherCondition =>
          simp [whereLine] at same
  | some condition =>
      cases other? with
      | none =>
          simp [whereLine] at same
      | some otherCondition =>
          simp only [whereLine, String.toList_append, List.append_assoc,
            List.append_cancel_left_eq] at same
          obtain ⟨sameCondition, sameRest⟩ :=
            (wellFormed _ rfl).cypher_append_inj (otherWellFormed _ rfl) (Text.stops_cons rfl)
              (Text.stops_cons rfl) same
          rw [sameCondition]
          simpa using sameRest

/-- The Cypher text of a well-formed query determines all but the case of its table. -/
theorem Query.WellFormed.cypher_inj
    {query other : Query}
    (wellFormed : query.WellFormed)
    (otherWellFormed : other.WellFormed)
    (same : query.cypher = other.cypher) :
    query.selection = other.selection ∧
      query.filter? = other.filter? ∧
      Text.sameIgnoringCase query.table.text other.table.text = true := by
  have shape :
      ∀ query : Query,
        query.cypher.toList =
          "MATCH (n:".toList ++ ((label query.table.text).toList ++ ')' ::
            ((whereLine query.filter?).toList ++ '\n' :: 'R' ::
              ("ETURN ".toList ++ query.selection.cypher.toList))) := by
    intro query
    simp [Query.cypher]
  have whole := congrArg String.toList same
  rw [shape, shape, List.append_cancel_left_eq] at whole
  obtain ⟨sameLabel, behindLabel⟩ :=
    Text.run_unique wellFormed.table.isNamePart_label otherWellFormed.table.isNamePart_label
      (Text.stops_cons rfl) (Text.stops_cons rfl) whole
  obtain ⟨sameFilter, behindFilter⟩ :=
    whereLine_append_inj wellFormed.filter? otherWellFormed.filter?
      (List.cons.inj behindLabel).2
  have sameSelection :=
    wellFormed.selection.cypher_inj otherWellFormed.selection
      (List.append_cancel_left behindFilter)
  have sameTable :=
    (wellFormed.table.label_eq_iff otherWellFormed.table).mp
      (String.toList_injective sameLabel)
  exact ⟨sameSelection, sameFilter, sameTable⟩

/--
Two queries that are read have the same Cypher text exactly if they select the same
columns by the same condition from tables that agree up to the case of letters.
-/
theorem Query.cypher_eq_iff
    {text otherText : String}
    {limits otherLimits : Limits}
    {query other : Query}
    (read : Query.ofText text limits = .ok query)
    (otherRead : Query.ofText otherText otherLimits = .ok other) :
    query.cypher = other.cypher ↔
      query.selection = other.selection ∧
        query.filter? = other.filter? ∧
        Text.sameIgnoringCase query.table.text other.table.text = true := by
  have wellFormed := Query.wellFormed_of_ofText read
  have otherWellFormed := Query.wellFormed_of_ofText otherRead
  constructor
  · exact wellFormed.cypher_inj otherWellFormed
  · intro ⟨sameSelection, sameFilter, sameTable⟩
    have sameLabel := (wellFormed.table.label_eq_iff otherWellFormed.table).mpr sameTable
    rw [Query.cypher, Query.cypher, sameSelection, sameFilter, sameLabel]

/-- Tables in capitals and in small letters, and a string that ends as a query does. -/
theorem Query.cypher_eq_iff_recased :
    let text := "SELECT * FROM USERS WHERE a = '\\''\nRETURN n' OR (b < 2.0 AND c = NULL)"
    let otherText := "select * from users where (a = '\\''\nRETURN n') or b < 2.0 and c = null"
    let filter? : Option Condition :=
      some
        (.join .or (.comparison ⟨"a"⟩ .equal (.string "\\'\nRETURN n"))
          (.join .and (.comparison ⟨"b"⟩ .less (.number "2.0"))
            (.comparison ⟨"c"⟩ .equal .null)))
    let query : Query :=
      { selection := .everything
        table := ⟨"USERS"⟩
        filter? := filter? }
    let other : Query :=
      { selection := .everything
        table := ⟨"users"⟩
        filter? := filter? }
    Query.ofText text {} = .ok query ∧
      Query.ofText otherText {} = .ok other ∧
      query.cypher = other.cypher := by
  intro text otherText filter? query other
  have read : Query.ofText text {} = .ok query := by decide +kernel
  have otherRead : Query.ofText otherText {} = .ok other := by decide +kernel
  refine ⟨read, otherRead, ?_⟩
  exact (Query.cypher_eq_iff read otherRead).mpr ⟨rfl, rfl, by decide⟩

end SelectCypher
