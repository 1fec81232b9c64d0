import Mathlib.Data.List.Basic
import SelectCypher.Json.Query
import SelectCypher.Proofs.Json.Nesting
import SelectCypher.Proofs.Json.Reads
import SelectCypher.Proofs.Json.Yields

namespace SelectCypher

open Json (Decoder Written)
open Json.Decoder (Reads Yields)

/-!
# Queries are read back from JSON

What is written for a query is read back as the query, if a selection by name lists a
name and the brackets nest within the limit; and every query that is read, in
whatever form, is such a query.  The nesting of a value bounds the brackets that its
decoder must be allowed.
-/

/-! ## Nesting of values -/

/-- The brackets inside each other in what is written for a value. -/
def Literal.nesting : Literal → Nat
  | .null => 0
  | _ => 1

/-- The brackets inside each other in what is written for a condition. -/
def Condition.nesting : Condition → Nat
  | comparison _ _ value => value.nesting + 2
  | join _ left right => max left.nesting right.nesting + 2

/-- The brackets inside each other in what is written for a selection. -/
def Selection.nesting : Selection → Nat
  | everything => 0
  | columns _ => 2

/-- The brackets inside each other in what is written for a filter. -/
def filterNesting : Option Condition → Nat
  | none => 0
  | some condition => condition.nesting

/-- The brackets inside each other in what is written for a query. -/
def Query.nesting (query : Query) : Nat :=
  max query.selection.nesting (filterNesting query.filter?) + 2

/-- A string is written as a single token. -/
theorem written_string (content : String) : Written 0 [Json.Token.string content] :=
  .single rfl rfl rfl

theorem Literal.written (value : Literal) : Written value.nesting value.toJson := by
  cases value with
  | string content =>
      exact (written_string content).tagged "Str"
  | number digits =>
      exact (written_string digits).tagged "Num"
  | bool value =>
      have written : Written 0 [Json.Token.bool value] := .single rfl rfl rfl
      exact written.tagged "Bool"
  | null =>
      exact written_string "Null"

theorem Condition.written (condition : Condition) :
    Written condition.nesting condition.toJson := by
  induction condition with
  | comparison column operator value =>
      have members :=
        ((written_string column.text).member "column").separate
          (((written_string operator.tag).member "operator").separate
            (value.written.member "value"))
      rw [Nat.zero_max, Nat.zero_max] at members
      exact Written.tagged "Comparison" (members.enclosed rfl rfl)
  | join connective left right leftWritten rightWritten =>
      exact Written.tagged (joinTag connective)
        ((leftWritten.separate rightWritten).enclosed rfl rfl)

/-- Names with commas between them have no brackets. -/
theorem written_names (names : List Identifier) :
    Written 0 (Json.separated (names.map Identifier.toJson)) := by
  induction names with
  | nil =>
      exact .nothing
  | cons name others inductionHypothesis =>
      cases others with
      | nil =>
          exact written_string name.text
      | cons second more =>
          exact (written_string name.text).separate inductionHypothesis

theorem Selection.written (selection : Selection) :
    Written selection.nesting selection.toJson := by
  cases selection with
  | everything =>
      exact written_string "All"
  | columns names =>
      exact Written.tagged "Explicit" ((written_names names).enclosed rfl rfl)

theorem written_filter (filter? : Option Condition) :
    Written (filterNesting filter?) (Query.filterToJson filter?) := by
  cases filter? with
  | none =>
      exact .single rfl rfl rfl
  | some condition =>
      exact condition.written

theorem Query.written (query : Query) : Written query.nesting query.toJson := by
  have members :=
    (query.selection.written.member "columns").separate
      (((written_string query.table.text).member "table").separate
        ((written_filter query.filter?).member "filter"))
  rw [Nat.zero_max] at members
  exact Written.tagged "statement" (members.enclosed rfl rfl)

/-! ## What is written is read -/

theorem Operator.reads
    (operator : Operator)
    (allowance : Nat) :
    Reads (Operator.decoder allowance) operator.toJson operator := by
  apply Reads.bare
  cases operator <;> decide

theorem Literal.reads
    {allowance : Nat}
    (value : Literal)
    (roomy : value.nesting ≤ allowance) :
    Reads (Literal.decoder allowance) value.toJson value := by
  cases value with
  | null =>
      exact Reads.bare rfl
  | string content =>
      obtain ⟨remaining, rfl⟩ := Nat.exists_eq_add_of_le' roomy
      exact Reads.tagged (Reads.string content).andReturn
  | number digits =>
      obtain ⟨remaining, rfl⟩ := Nat.exists_eq_add_of_le' roomy
      exact Reads.tagged (Reads.string digits).andReturn
  | bool value =>
      obtain ⟨remaining, rfl⟩ := Nat.exists_eq_add_of_le' roomy
      exact Reads.tagged (Reads.bool value).andReturn

theorem Identifier.reads (name : Identifier) :
    Reads Identifier.decoder name.toJson name :=
  (Reads.string name.text).andReturn

/-- The parts of a comparison are read by name. -/
theorem Condition.reads_comparison
    {allowance : Nat}
    (column : Identifier)
    (operator : Operator)
    {value : Literal}
    (roomy : value.nesting ≤ allowance) :
    Reads (comparisonByName allowance)
      (Json.object
        [("column", column.toJson), ("operator", operator.toJson),
          ("value", value.toJson)])
      (comparison column operator value) := by
  have members :
      Reads.Fields (comparisonMember allowance) {}
        [("column", column.toJson), ("operator", operator.toJson),
          ("value", value.toJson)]
        { column? := some column, operator? := some operator, value? := some value } :=
    .next column.reads.once.andReturn
      (.next (operator.reads allowance).once.andReturn
        (.next (value.reads roomy).once.andReturn .none))
  intro rest
  rw [comparisonByName, Json.Decoder.run_bind (Reads.fields members rest)]
  rfl

/-- The two operands of a joined condition are read in order. -/
theorem Condition.reads_operandPair
    {operand : Decoder Condition}
    (connective : Connective)
    {left right : Condition}
    (leftReads : Reads operand left.toJson left)
    (rightReads : Reads operand right.toJson right) :
    Reads (operandPair connective operand)
      (Json.array [left.toJson, right.toJson]) (join connective left right) := by
  have inside :
      Reads (operandPair connective operand)
        (Json.Token.openArray ::
          (left.toJson ++ .comma :: (right.toJson ++ [.closeArray])))
        (join connective left right) := by
    apply (Reads.mark .openArray).bind
    apply leftReads.bind
    apply (Reads.mark .comma).bind
    apply rightReads.bind
    apply (Reads.mark .closeArray).bind
    exact Reads.pure _
  simpa [Json.array, Json.separated] using inside

/-- A condition is read wherever as many brackets are allowed as it needs. -/
theorem Condition.reads
    {allowance : Nat}
    (condition : Condition)
    (roomy : condition.nesting ≤ allowance) :
    Reads (Condition.decoder allowance) condition.toJson condition := by
  induction condition generalizing allowance with
  | comparison column operator value =>
      obtain ⟨remaining, rfl⟩ := Nat.exists_eq_add_of_le' roomy
      rw [show remaining + (comparison column operator value).nesting =
        remaining + value.nesting + 2 from rfl, Condition.decoder]
      apply Reads.tagged
      apply Reads.record
      exact reads_comparison column operator (Nat.le_add_left _ _)
  | join connective left right leftReads rightReads =>
      obtain ⟨remaining, rfl⟩ := Nat.exists_eq_add_of_le' roomy
      have leftRoomy : left.nesting ≤ remaining + max left.nesting right.nesting := by
        omega
      have rightRoomy : right.nesting ≤ remaining + max left.nesting right.nesting := by
        omega
      rw [show remaining + (join connective left right).nesting =
        remaining + max left.nesting right.nesting + 2 from rfl, Condition.decoder]
      have inside :=
        reads_operandPair connective (leftReads leftRoomy) (rightReads rightRoomy)
      apply Reads.tagged
      cases connective with
      | and =>
          exact inside
      | or =>
          exact inside

/-- A selection that lists a name, if it is one by name, is read. -/
theorem Selection.reads
    {allowance : Nat}
    (selection : Selection)
    (someNames : selection ≠ .columns [])
    (roomy : selection.nesting ≤ allowance) :
    Reads (Selection.decoder allowance) selection.toJson selection := by
  have reads : Reads (anyDecoder allowance) selection.toJson selection := by
    cases selection with
    | everything =>
        exact Reads.bare rfl
    | columns names =>
        obtain ⟨remaining, rfl⟩ := Nat.exists_eq_add_of_le' roomy
        have names :
            Reads (Json.Decoder.list Identifier.decoder)
              (Json.array (names.map Identifier.toJson)) names := by
          apply Reads.list
          · exact fun name _ => name.reads
          · exact fun name _ => ⟨_, _, rfl, by simp⟩
        exact Reads.tagged names.andReturn
  intro rest
  rw [Selection.decoder, Json.Decoder.run_bind (reads rest)]
  cases selection with
  | everything =>
      rfl
  | columns names =>
      cases names with
      | nil =>
          exact absurd rfl someNames
      | cons name others =>
          rfl

/-- A filter is read, and so is the word that there is none. -/
theorem reads_filter
    {allowance : Nat}
    (filter? : Option Condition)
    (roomy : filterNesting filter? ≤ allowance) :
    Reads (Json.Decoder.optional (Condition.decoder allowance))
      (Query.filterToJson filter?) filter? := by
  cases filter? with
  | none =>
      exact Reads.optional_null _
  | some condition =>
      have reads := condition.reads roomy
      cases condition with
      | comparison column operator value =>
          exact Reads.optional reads (by simp)
      | join connective left right =>
          exact Reads.optional reads (by simp)

/-- The parts of a statement are read by name. -/
theorem Query.reads_statement
    {allowance : Nat}
    (query : Query)
    (someNames : query.selection ≠ .columns [])
    (selectionRoomy : query.selection.nesting ≤ allowance)
    (filterRoomy : filterNesting query.filter? ≤ allowance) :
    Reads (statementByName allowance)
      (Json.object
        [("columns", query.selection.toJson), ("table", query.table.toJson),
          ("filter", filterToJson query.filter?)])
      query := by
  have members :
      Reads.Fields (statementMember allowance) {}
        [("columns", query.selection.toJson), ("table", query.table.toJson),
          ("filter", filterToJson query.filter?)]
        { selection? := some query.selection
          table? := some query.table
          filter? := some query.filter? } :=
    .next (query.selection.reads someNames selectionRoomy).once.andReturn
      (.next query.table.reads.once.andReturn
        (.next (reads_filter query.filter? filterRoomy).once.andReturn .none))
  intro rest
  rw [statementByName, Json.Decoder.run_bind (Reads.fields members rest)]
  rfl

/-- A query is read wherever as many brackets are allowed as it needs. -/
theorem Query.reads
    {allowance : Nat}
    (query : Query)
    (someNames : query.selection ≠ .columns [])
    (roomy : query.nesting ≤ allowance) :
    Reads (Query.decoder allowance) query.toJson query := by
  obtain ⟨remaining, rfl⟩ := Nat.exists_eq_add_of_le' roomy
  let inside := remaining + max query.selection.nesting (filterNesting query.filter?)
  have statement :
      Reads (statementDecoder (inside + 1))
        (Json.object
          [("columns", query.selection.toJson), ("table", query.table.toJson),
            ("filter", filterToJson query.filter?)])
        query := by
    apply Reads.record
    apply query.reads_statement someNames
    · omega
    · omega
  have members :
      Reads.Fields (queryMember (inside + 1)) none
        [("statement",
          Json.object
            [("columns", query.selection.toJson), ("table", query.table.toJson),
              ("filter", filterToJson query.filter?)])]
        (some query) :=
    .next statement.once .none
  have byName : Reads (queryByName (inside + 1)) query.toJson query := by
    intro rest
    rw [queryByName, toJson, Json.Decoder.run_bind (Reads.fields members rest)]
    rfl
  exact Reads.record byName

/-! ## What is read can be written -/

theorem Literal.yields (allowance : Nat) :
    Yields (fun value => value.nesting ≤ allowance) (Literal.decoder allowance) := by
  apply Yields.choice
  · intro tag value known
    split at known
    · cases known
      exact Nat.zero_le _
    · cases known
  · rintro remaining tag rfl
    have small : ∀ value : Literal, value.nesting ≤ remaining + 1 := by
      intro value
      cases value <;> simp [Literal.nesting]
    exact ⟨fun _ => small _⟩

/-- What is known of a comparison nests within an allowance. -/
def Condition.KnownComparison.Within
    (allowance : Nat)
    (known : KnownComparison) :
    Prop :=
  ∀ value ∈ known.value?, value.nesting ≤ allowance

theorem Condition.comparisonByName_yields (allowance : Nat) :
    Yields (fun condition => condition.nesting ≤ allowance + 2)
      (comparisonByName allowance) := by
  have fields :
      Yields (KnownComparison.Within allowance)
        (Json.Decoder.fields (comparisonMember allowance) {}) := by
    apply Yields.fields
    · simp [KnownComparison.Within]
    · intro known name within
      unfold comparisonMember
      split
      · exact Yields.behind fun _ => Yields.pure within
      · exact Yields.behind fun _ => Yields.pure within
      · exact (Literal.yields allowance).once.bind fun _ met => Yields.pure met
      · exact Yields.behind fun _ => Yields.pure within
  apply fields.bind
  intro known within
  refine Yields.behind fun column => Yields.behind fun operator => ?_
  apply (Yields.required within).bind
  intro value small
  exact Yields.pure (Nat.add_le_add_right small 2)

theorem Condition.comparisonInOrder_yields (allowance : Nat) :
    Yields (fun condition => condition.nesting ≤ allowance + 2)
      (comparisonInOrder allowance) := by
  refine Yields.behind fun _ => Yields.behind fun column => Yields.behind fun _ =>
    Yields.behind fun operator => Yields.behind fun _ => ?_
  apply (Literal.yields allowance).bind
  intro value small
  exact Yields.behind fun _ => Yields.pure (Nat.add_le_add_right small 2)

theorem Condition.operandPair_yields
    {allowance : Nat}
    {operand : Decoder Condition}
    (connective : Connective)
    (yields : Yields (fun condition => condition.nesting ≤ allowance) operand) :
    Yields (fun condition => condition.nesting ≤ allowance + 2)
      (operandPair connective operand) := by
  apply Yields.behind
  intro _
  apply yields.bind
  intro left leftSmall
  apply Yields.behind
  intro _
  apply yields.bind
  intro right rightSmall
  refine Yields.behind fun _ => Yields.pure ?_
  have both := Nat.max_le.mpr ⟨leftSmall, rightSmall⟩
  exact Nat.add_le_add_right both 2

/-- A condition that is read needs no more brackets than were allowed. -/
theorem Condition.yields (allowance : Nat) :
    Yields (fun condition => condition.nesting ≤ allowance)
      (Condition.decoder allowance) := by
  induction allowance using Condition.decoder.induct with
  | case1 allowance inductionHypothesis =>
      rw [Condition.decoder]
      apply Yields.choice
      · simp
      · intro remaining tag fewer
        split
        · apply Yields.record
          · intro inside
            rintro ⟨⟩
            exact comparisonByName_yields allowance
          · intro inside
            rintro ⟨⟩
            exact comparisonInOrder_yields allowance
        · exact operandPair_yields .and inductionHypothesis
        · exact operandPair_yields .or inductionHypothesis
        · exact Yields.fail _
  | case2 allowance tooFew =>
      unfold Condition.decoder
      split
      · rename_i remaining
        exact absurd rfl (tooFew remaining)
      · exact Yields.fail _

/-- A filter that is read needs no more brackets than were allowed. -/
theorem yields_filter (allowance : Nat) :
    Yields (fun filter? => filterNesting filter? ≤ allowance)
      (Json.Decoder.optional (Condition.decoder allowance)) := by
  apply (Condition.yields allowance).optional.mono
  intro filter? small
  cases filter? with
  | none =>
      exact Nat.zero_le _
  | some condition =>
      exact small condition rfl

/-- A selection that can be written so that it is read again. -/
def Selection.Within
    (allowance : Nat)
    (selection : Selection) :
    Prop :=
  selection ≠ .columns [] ∧ selection.nesting ≤ allowance

theorem Selection.yields (allowance : Nat) :
    Yields (Selection.Within allowance) (Selection.decoder allowance) := by
  have small :
      Yields (fun selection => selection.nesting ≤ allowance) (anyDecoder allowance) := by
    apply Yields.choice
    · intro tag selection known
      split at known
      · cases known
        exact Nat.zero_le _
      · cases known
    · rintro remaining tag rfl
      split
      · exact Yields.behind fun _ => Yields.pure (Nat.zero_le _)
      · have oneMore :
            Yields (fun _ => 1 ≤ remaining)
              (Json.Decoder.nested remaining fun _ =>
                Json.Decoder.list Identifier.decoder) := by
          apply Yields.nested
          rintro inside rfl
          exact (Yields.anything _).mono fun _ _ => Nat.le_add_left 1 inside
        exact oneMore.bind fun names room => Yields.pure (Nat.add_le_add_right room 1)
      · exact Yields.fail _
  apply small.bind
  intro selection within
  split
  · exact Yields.fail _
  · rename_i someNames
    exact Yields.pure ⟨someNames, within⟩

/-- What is known of a statement can be written so that it is read again. -/
structure Query.KnownStatement.Within
    (allowance : Nat)
    (known : KnownStatement) :
    Prop where
  selection : ∀ selection ∈ known.selection?, selection.Within allowance
  filter : ∀ filter? ∈ known.filter?, filterNesting filter? ≤ allowance

/-- A query that can be written so that it is read again. -/
structure Query.Within
    (allowance : Nat)
    (query : Query) :
    Prop where
  someNames : query.selection ≠ .columns []
  nesting : query.nesting ≤ allowance

theorem Query.Within.of_parts
    {allowance : Nat}
    {selection : Selection}
    {filter? : Option Condition}
    (table : Identifier)
    (within : selection.Within allowance)
    (filterWithin : filterNesting filter? ≤ allowance) :
    Query.Within (allowance + 2) { selection, table, filter? } where
  someNames := within.1
  nesting := Nat.add_le_add_right (Nat.max_le.mpr ⟨within.2, filterWithin⟩) 2

theorem Query.statementByName_yields (allowance : Nat) :
    Yields (Query.Within (allowance + 2)) (statementByName allowance) := by
  have fields :
      Yields (KnownStatement.Within allowance)
        (Json.Decoder.fields (statementMember allowance) {}) := by
    apply Yields.fields
    · exact ⟨by simp, by simp⟩
    · intro known name within
      unfold statementMember
      split
      · exact (Selection.yields allowance).once.bind fun _ met =>
          Yields.pure ⟨met, within.filter⟩
      · exact Yields.behind fun _ => Yields.pure ⟨within.selection, within.filter⟩
      · exact (yields_filter allowance).once.bind fun _ met =>
          Yields.pure ⟨within.selection, met⟩
      · exact Yields.behind fun _ => Yields.pure within
  apply fields.bind
  intro known within
  apply (Yields.required within.selection).bind
  intro selection selectionWithin
  refine Yields.behind fun table => Yields.pure ?_
  apply Within.of_parts table selectionWithin
  cases filter : known.filter? with
  | none =>
      exact Nat.zero_le _
  | some filter? =>
      exact within.filter filter? filter

theorem Query.statementInOrder_yields (allowance : Nat) :
    Yields (Query.Within (allowance + 2)) (statementInOrder allowance) := by
  apply Yields.behind
  intro _
  apply (Selection.yields allowance).bind
  intro selection selectionWithin
  refine Yields.behind fun _ => Yields.behind fun table => Yields.behind fun _ => ?_
  apply (yields_filter allowance).bind
  intro filter? filterWithin
  exact Yields.behind fun _ =>
    Yields.pure (Within.of_parts table selectionWithin filterWithin)

/-- A statement that is read can be written, in one bracket more. -/
theorem Query.statement_yields (allowance : Nat) :
    Yields (Query.Within (allowance + 1)) (statementDecoder allowance) := by
  apply Yields.record
  · rintro remaining rfl
    exact statementByName_yields remaining
  · rintro remaining rfl
    exact statementInOrder_yields remaining

/-- A query that is read lists a name and needs no more brackets than were allowed. -/
theorem Query.yields (allowance : Nat) :
    Yields (Query.Within allowance) (Query.decoder allowance) := by
  apply Yields.record
  · rintro remaining rfl
    have fields :
        Yields (fun known? => ∀ query ∈ known?, Query.Within (remaining + 1) query)
          (Json.Decoder.fields (queryMember remaining) none) := by
      apply Yields.fields
      · simp
      · intro known name within
        unfold queryMember
        split
        · exact (statement_yields remaining).once
        · exact Yields.behind fun _ => Yields.pure within
    exact fields.bind fun known? within => Yields.required within
  · rintro remaining rfl
    apply Yields.behind
    intro _
    apply (statement_yields remaining).bind
    intro query within
    exact Yields.behind fun _ => Yields.pure within

/-! ## Whole texts -/

/-- A query that can be written is read back from any text of its tokens. -/
theorem Query.Within.decode_eq
    {query : Query}
    {text : String}
    (within : query.Within Json.nestingLimit)
    (scanned : Json.scan text.toList = query.toJson) :
    Json.decode Query.decoder text = .ok query := by
  have read := query.reads within.someNames within.nesting []
  rw [List.append_nil] at read
  rw [Json.decode, scanned, read]
  rfl

/-- What a text is read as can be written. -/
theorem Query.within_of_decode
    {query : Query}
    {text : String}
    (decoded : Json.decode Query.decoder text = .ok query) :
    query.Within Json.nestingLimit := by
  unfold Json.decode at decoded
  cases read : (Query.decoder Json.nestingLimit).run (Json.scan text.toList) with
  | error failure =>
      rw [read] at decoded
      cases decoded
  | ok found =>
      obtain ⟨value, rest⟩ := found
      rw [read] at decoded
      simp only [bind, Except.bind] at decoded
      split at decoded
      · cases decoded
        exact (Query.yields Json.nestingLimit).of_run read
      · cases decoded

/--
A query is read back from its compact and from its indented text if its selection
lists a name, should it list any, and its brackets nest within the limit.  Every query
that is read from a text, whatever its form, is such a query.
-/
theorem Query.decode_toJson :
    (∀ query : Query,
      query.selection ≠ .columns [] →
      Json.nesting query.toJson ≤ Json.nestingLimit →
      Json.decode Query.decoder (Json.compact query.toJson) = .ok query ∧
        Json.decode Query.decoder (Json.indented query.toJson) = .ok query) ∧
      ∀ text query,
        Json.decode Query.decoder text = .ok query →
        query.selection ≠ .columns [] ∧
          Json.decode Query.decoder (Json.compact query.toJson) = .ok query ∧
          Json.decode Query.decoder (Json.indented query.toJson) = .ok query := by
  have reread :
      ∀ query : Query,
        query.Within Json.nestingLimit →
        Json.decode Query.decoder (Json.compact query.toJson) = .ok query ∧
          Json.decode Query.decoder (Json.indented query.toJson) = .ok query := by
    intro query within
    have endThemselves := query.written.endThemselves
    exact ⟨within.decode_eq (Json.scan_compact endThemselves),
      within.decode_eq (Json.scan_indented endThemselves)⟩
  constructor
  · intro query someNames shallow
    rw [query.written.nesting_eq] at shallow
    exact reread query ⟨someNames, shallow⟩
  · intro text query decoded
    have within := within_of_decode decoded
    exact ⟨within.someNames, reread query within⟩

/-- A name with a quote, a line feed and a control character, read from an array. -/
theorem Query.decode_toJson_escaped :
    let query : Query :=
      { selection := .columns [⟨"a\"\n\x01é"⟩]
        table := ⟨"t"⟩
        filter? := some (.comparison ⟨"b"⟩ .notEqual .null) }
    let text :=
      "[[\x7b\"Explicit\": [\"a\\\"\\n\\u0001é\"]\x7d, \"t\", " ++
        "\x7b\"Comparison\": [\"b\", \x7b\"Neq\": null\x7d, \"Null\"]\x7d]]"
    query.selection ≠ .columns [] ∧
      Json.nesting query.toJson ≤ Json.nestingLimit ∧
      Json.decode Query.decoder text = .ok query ∧
      Json.decode Query.decoder (Json.compact query.toJson) = .ok query ∧
      Json.decode Query.decoder (Json.indented query.toJson) = .ok query := by
  intro query text
  have someNames : query.selection ≠ .columns [] := by decide
  have shallow : Json.nesting query.toJson ≤ Json.nestingLimit := by
    decide +kernel
  have decoded : Json.decode Query.decoder text = .ok query := by decide +kernel
  obtain ⟨rereads, readable⟩ := Query.decode_toJson
  exact ⟨(readable text query decoded).1, shallow, decoded,
    rereads query someNames shallow⟩

end SelectCypher
