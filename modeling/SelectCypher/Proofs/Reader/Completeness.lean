import SelectCypher.Proofs.Reader.Query

namespace SelectCypher

open Grammar

/-!
# Reading queries is complete

Tokens that form a condition are read as that condition, whatever follows them:
the reader folds them and goes on where they end.  Since the reader has one
result, so has the grammar, and a sentence is one query only.
-/

namespace Reader

/-- A reader before other tokens, if there are any, and otherwise unchanged. -/
def before (reader : Reader) : List Token → Reader
  | [] =>
      reader
  | token :: rest =>
      { reader with current := token, upcoming := rest }

@[simp] theorem before_current
    (reader : Reader)
    (token : Token)
    (rest : List Token) :
    (reader.before (token :: rest)).current = token :=
  rfl

@[simp] theorem before_depth
    (reader : Reader)
    (tokens : List Token) :
    (reader.before tokens).depth = reader.depth := by
  cases tokens <;> rfl

@[simp] theorem before_maxDepth
    (reader : Reader)
    (tokens : List Token) :
    (reader.before tokens).maxDepth = reader.maxDepth := by
  cases tokens <;> rfl

/-- The count of open parentheses may be changed before or behind other tokens. -/
theorem withDepth_before
    (reader : Reader)
    (tokens : List Token)
    (depth : Nat) :
    { reader.before tokens with depth := depth } =
      { reader with depth := depth }.before tokens := by
  cases tokens <;> rfl

/-- Passing a token that others follow. -/
theorem advance_before
    (reader : Reader)
    {token : Token}
    {rest : List Token}
    (more : rest ≠ [])
    (notEnd : (reader.before (token :: rest)).current.kind ≠ .endOfInput) :
    ∃ progress,
      (reader.before (token :: rest)).advance notEnd =
        .ok { value := token, after := reader.before rest, progress := progress } := by
  cases rest with
  | nil =>
      exact absurd rfl more
  | cons next later =>
      exact ⟨_, rfl⟩

theorem expect_before
    (reader : Reader)
    {token : Token}
    {rest : List Token}
    {kind : TokenKind}
    (expected : List TokenKind)
    (notEnd : kind ≠ .endOfInput)
    (seen : (reader.before (token :: rest)).current.kind = kind)
    (more : rest ≠ []) :
    ∃ progress,
      (reader.before (token :: rest)).expect kind expected notEnd =
        .ok { value := token, after := reader.before rest, progress := progress } := by
  obtain ⟨progress, passed⟩ := reader.advance_before more (seen ▸ notEnd)
  refine ⟨progress, ?_⟩
  rw [Reader.expect, dif_pos seen]
  exact passed

theorem identifier_before
    (reader : Reader)
    {token : Token}
    {rest : List Token}
    (expected : List TokenKind)
    (named : token.kind = .identifier)
    (more : rest ≠ []) :
    ∃ progress,
      (reader.before (token :: rest)).identifier expected =
        .ok
          { value := ⟨token.text⟩
            after := reader.before rest
            progress := progress } := by
  obtain ⟨progress, passed⟩ :=
    reader.expect_before expected (by decide) named more
  refine ⟨progress, ?_⟩
  rw [Reader.identifier, passed]
  rfl

theorem operator_before
    (reader : Reader)
    {token : Token}
    {rest : List Token}
    {comparison : Operator}
    (compares : token.kind = .operator comparison)
    (more : rest ≠ []) :
    ∃ progress,
      (reader.before (token :: rest)).operator =
        .ok
          { value := comparison
            after := reader.before rest
            progress := progress } := by
  have notEnd : token.kind ≠ .endOfInput := by
    simp [compares]
  obtain ⟨progress, passed⟩ := reader.advance_before more notEnd
  refine ⟨progress, ?_⟩
  unfold Reader.operator
  split
  · rename_i none
    simp [compares, TokenKind.operator?] at none
  · rename_i found same
    obtain rfl : found = comparison := by
      simpa [compares, TokenKind.operator?] using same.symm
    rw [passed]
    rfl

theorem Denotes.ofToken_eq
    {token : Token}
    {literal : Literal}
    (denotes : Denotes token literal) :
    Literal.ofToken token = literal := by
  cases denotes with
  | string kind | number kind | truth kind | falsehood kind | null kind =>
      simp [Literal.ofToken, kind]

theorem literal_before
    (reader : Reader)
    {token : Token}
    {rest : List Token}
    {literal : Literal}
    (denotes : Denotes token literal)
    (more : rest ≠ []) :
    ∃ progress,
      (reader.before (token :: rest)).literal =
        .ok
          { value := literal
            after := reader.before rest
            progress := progress } := by
  have isLiteral :
      (reader.before (token :: rest)).current.kind.isLiteral = true :=
    denotes.isLiteral
  obtain ⟨progress, passed⟩ :=
    reader.advance_before more (TokenKind.ne_endOfInput_of_isLiteral isLiteral)
  refine ⟨progress, ?_⟩
  rw [Reader.literal, dif_pos isLiteral, passed, ← Denotes.ofToken_eq denotes]
  rfl

/-- A call reads what it folds and goes on behind it. -/
def Resumes
    (reader : Reader)
    (leastPower : Nat)
    (condition : Condition)
    (after : Reader) :
    Prop :=
  ∃ progress,
    reader.condition leastPower =
      operands reader leastPower condition after progress

/-- Where the call stops behind what it folds, that is its result. -/
theorem Resumes.eq_ok
    {reader after : Reader}
    {leastPower : Nat}
    {condition : Condition}
    (resumes : Resumes reader leastPower condition after)
    (leaves : LeavesTo leastPower after.current.kind) :
    ∃ progress,
      reader.condition leastPower =
        .ok { value := condition, after := after, progress := progress } := by
  obtain ⟨progress, folded⟩ := resumes
  exact ⟨progress, folded.trans (operands_of_leavesTo leaves)⟩

/-- A call folds a connective strong enough, with the operand behind it. -/
theorem Resumes.join
    {frame : Reader}
    {leastPower : Nat}
    {connective : Connective}
    {word next : Token}
    {before behind rest : List Token}
    {left right : Condition}
    (folded :
      Resumes (frame.before (before ++ word :: (behind ++ next :: rest)))
        leastPower left (frame.before (word :: (behind ++ next :: rest))))
    (joins : word.kind.connective? = some connective)
    (strong : ¬ connective.leftPower < leastPower)
    (operand :
      Resumes (frame.before (behind ++ next :: rest)) connective.rightPower right
        (frame.before (next :: rest)))
    (leaves : LeavesTo connective.rightPower next.kind) :
    Resumes (frame.before (before ++ word :: (behind ++ next :: rest))) leastPower
      (.join connective left right) (frame.before (next :: rest)) := by
  obtain ⟨progress, folded⟩ := folded
  obtain ⟨operandProgress, operandRead⟩ := operand.eq_ok leaves
  have notEnd := TokenKind.ne_endOfInput_of_connective? joins
  obtain ⟨wordProgress, passed⟩ :=
    frame.advance_before
      (show behind ++ next :: rest ≠ [] by simp) (show _ ≠ _ from notEnd)
  refine ⟨Nat.lt_trans operandProgress (Nat.lt_trans wordProgress progress), ?_⟩
  rw [folded, operands_of_joins joins strong, passed]
  simp only [bind, Except.bind]
  rw [operandRead]

/-- A row of tokens is read where a layer of the grammar is due. -/
def ReadsLayer
    (frame : Reader)
    (tokens : List Token)
    (condition : Condition)
    (next : Token)
    (rest : List Token) :
    Layer → Prop
  | .operand =>
      ∃ progress,
        (frame.before (tokens ++ next :: rest)).atom =
          .ok
            { value := condition
              after := frame.before (next :: rest)
              progress := progress }
  | .conjunction =>
      ∀ leastPower,
        leastPower ≤ 3 →
        Resumes (frame.before (tokens ++ next :: rest)) leastPower condition
          (frame.before (next :: rest))
  | .disjunction =>
      next.kind ≠ .keyword .andWord →
      ∀ leastPower,
        leastPower ≤ 1 →
        Resumes (frame.before (tokens ++ next :: rest)) leastPower condition
          (frame.before (next :: rest))

/-- A call that starts at an operand resumes behind it. -/
theorem resumes_of_atom
    {frame : Reader}
    {tokens rest : List Token}
    {next : Token}
    {condition : Condition}
    (leastPower : Nat)
    (read : ReadsLayer frame tokens condition next rest .operand) :
    Resumes (frame.before (tokens ++ next :: rest)) leastPower condition
      (frame.before (next :: rest)) := by
  obtain ⟨progress, read⟩ := read
  refine ⟨progress, ?_⟩
  rw [Reader.condition, read]
  rfl

theorem atom_of_comparison
    {frame : Reader}
    {column operator value next : Token}
    {rest : List Token}
    {comparison : Operator}
    {literal : Literal}
    (named : column.kind = .identifier)
    (compares : operator.kind = .operator comparison)
    (denotes : Denotes value literal) :
    ReadsLayer frame [column, operator, value]
      (.comparison ⟨column.text⟩ comparison literal) next rest .operand := by
  obtain ⟨first, columnRead⟩ :=
    frame.identifier_before [.identifier] named
      (show operator :: value :: next :: rest ≠ [] by simp)
  obtain ⟨second, operatorRead⟩ :=
    frame.operator_before compares (show value :: next :: rest ≠ [] by simp)
  obtain ⟨third, literalRead⟩ :=
    frame.literal_before denotes (show next :: rest ≠ [] by simp)
  refine ⟨Nat.lt_trans third (Nat.lt_trans second first), ?_⟩
  simp only [List.cons_append, List.nil_append]
  rw [atom_eq_of_not_group (by simp [named]), if_pos (by simp [named]),
    Reader.comparison, columnRead]
  simp only [bind, Except.bind]
  rw [operatorRead]
  simp only
  rw [literalRead]
  rfl

theorem atom_of_group
    {frame : Reader}
    {opening closing next : Token}
    {tokens rest : List Token}
    {condition : Condition}
    (opens : opening.kind = .leftParen)
    (closes : closing.kind = .rightParen)
    (roomy : frame.depth < frame.maxDepth)
    (inside :
      ReadsLayer { frame with depth := frame.depth + 1 } tokens condition closing
        (next :: rest) .disjunction) :
    ReadsLayer frame (opening :: tokens ++ [closing]) condition next rest
      .operand := by
  have noAnd : closing.kind ≠ .keyword .andWord := by
    simp [closes]
  have stops : LeavesTo 0 closing.kind := by
    simp [LeavesTo, closes, TokenKind.connective?]
  have opensHere :
      (frame.before (opening :: (tokens ++ closing :: next :: rest))).current.kind =
        .leftParen :=
    opens
  obtain ⟨openingProgress, openingRead⟩ :=
    frame.advance_before
      (show tokens ++ closing :: next :: rest ≠ [] by simp)
      (show (frame.before (opening :: _)).current.kind ≠ .endOfInput by
        simp [opens])
  have innerRead :
      ∃ progress,
        { frame.before (tokens ++ closing :: next :: rest) with
            depth :=
              (frame.before (tokens ++ closing :: next :: rest)).depth + 1
          }.condition 0 =
          .ok
            { value := condition
              after :=
                { frame with depth := frame.depth + 1 }.before
                  (closing :: next :: rest)
              progress := progress } := by
    rw [before_depth, withDepth_before]
    exact (inside noAnd 0 (Nat.zero_le 1)).eq_ok stops
  obtain ⟨innerProgress, innerRead⟩ := innerRead
  obtain ⟨closingProgress, closingRead⟩ :=
    { frame with depth := frame.depth + 1 }.expect_before
      [.keyword .andWord, .keyword .orWord, .rightParen] (by decide) closes
      (show next :: rest ≠ [] by simp)
  have flat :
      opening :: tokens ++ [closing] ++ next :: rest =
        opening :: (tokens ++ closing :: next :: rest) := by
    simp
  unfold ReadsLayer
  rw [flat]
  refine
    ⟨Nat.lt_trans (Nat.lt_trans closingProgress innerProgress) openingProgress,
      ?_⟩
  rw [atom_eq_of_group opensHere (by simpa using roomy), openingRead]
  simp only [bind, Except.bind]
  rw [innerRead]
  simp only
  rw [closingRead]
  rfl

/-- Tokens that form a condition are read as it where their layer is due. -/
theorem readsLayer_of_forms
    {layer : Layer}
    {tokens : List Token}
    {condition : Condition}
    (forms : Forms layer tokens condition)
    (frame : Reader)
    (next : Token)
    (rest : List Token)
    (roomy :
      frame.depth + tokens.countP (·.kind = .leftParen) ≤ frame.maxDepth) :
    ReadsLayer frame tokens condition next rest layer := by
  -- What follows is left open, since a left operand is read with all the rest of
  -- its chain behind it; the right one is read with the power of its connective.
  induction forms generalizing frame next rest with
  | comparison named compares denotes =>
      exact atom_of_comparison named compares denotes
  | @group opening closing tokens condition opens forms closes
      inductionHypothesis =>
      simp only [List.cons_append, List.countP_cons, List.countP_append, opens,
        decide_true, ↓reduceIte] at roomy
      refine atom_of_group opens closes (by omega) ?_
      refine inductionHypothesis { frame with depth := frame.depth + 1 } closing
        (next :: rest) ?_
      simp only
      omega
  | oneOperand forms inductionHypothesis =>
      intro leastPower _
      exact resumes_of_atom leastPower (inductionHypothesis frame next rest roomy)
  | oneConjunction forms inductionHypothesis =>
      intro _ leastPower folds
      exact inductionHypothesis frame next rest roomy leastPower (by omega)
  | @and word before behind left right leftForms joins rightForms leftHypothesis
      rightHypothesis =>
      simp only [List.countP_append, List.countP_cons] at roomy
      intro leastPower folds
      have folded :=
        leftHypothesis frame word (behind ++ next :: rest) (by omega) leastPower
          folds
      have operand :=
        resumes_of_atom 4 (rightHypothesis frame next rest (by omega))
      rw [List.append_assoc, List.cons_append]
      refine folded.join (TokenKind.connective?_eq_some_iff.mpr joins)
        (Nat.not_lt_of_le folds) operand ?_
      intro connective _
      cases connective <;> decide
  | @or word before behind left right leftForms joins rightForms leftHypothesis
      rightHypothesis =>
      simp only [List.countP_append, List.countP_cons] at roomy
      intro noAnd leastPower folds
      have wordNotAnd : word.kind ≠ .keyword .andWord := by
        simp [joins]
      have folded :=
        leftHypothesis frame word (behind ++ next :: rest) (by omega) wordNotAnd
          leastPower folds
      have operand :=
        rightHypothesis frame next rest (by omega) 2 (by omega)
      rw [List.append_assoc, List.cons_append]
      refine folded.join (TokenKind.connective?_eq_some_iff.mpr joins)
        (Nat.not_lt_of_le folds) operand ?_
      intro connective found
      rw [TokenKind.connective?_eq_some_iff] at found
      cases connective with
      | and =>
          exact absurd found noAnd
      | or =>
          decide

/-- A whole condition is read up to the end of input behind it. -/
theorem condition_before
    (frame : Reader)
    {tokens : List Token}
    {condition : Condition}
    {last : Token}
    (forms : Forms .disjunction tokens condition)
    (isEnd : last.kind = .endOfInput)
    (roomy :
      frame.depth + tokens.countP (·.kind = .leftParen) ≤ frame.maxDepth) :
    ∃ progress,
      (frame.before (tokens ++ [last])).condition 0 =
        .ok
          { value := condition
            after := frame.before [last]
            progress := progress } := by
  have reads := readsLayer_of_forms forms frame last [] roomy
  refine (reads (by simp [isEnd]) 0 (Nat.zero_le 1)).eq_ok ?_
  simp [LeavesTo, isEnd, TokenKind.connective?]

/-- A list of names is found up to its last one, behind which more may follow. -/
theorem selection_of_lists
    {tokens : List Token}
    {names : List Identifier}
    (lists : Lists tokens names)
    (frame : Reader)
    (next : Token)
    (rest : List Token) :
    ∃ progress,
      (frame.before (tokens ++ next :: rest)).selection =
        (moreNames _ names.reverse (frame.before (next :: rest)) progress).map
          (Parsed.map .columns) := by
  induction lists generalizing next rest with
  | @one name isName =>
      obtain ⟨progress, nameRead⟩ :=
        frame.identifier_before [.asterisk, .identifier] isName
          (show next :: rest ≠ [] by simp)
      rw [List.singleton_append]
      refine ⟨progress, ?_⟩
      rw [selection, dif_neg (by simp [isName]), nameRead]
      rfl
  | @more comma name tokens names lists isComma isName inductionHypothesis =>
      obtain ⟨progress, found⟩ :=
        inductionHypothesis comma (name :: next :: rest)
      obtain ⟨commaProgress, commaRead⟩ :=
        frame.advance_before
          (show name :: next :: rest ≠ [] by simp)
          (show (frame.before (comma :: _)).current.kind ≠ .endOfInput by
            simp [isComma])
      obtain ⟨nameProgress, nameRead⟩ :=
        frame.identifier_before [.identifier] isName
          (show next :: rest ≠ [] by simp)
      have flat :
          tokens ++ [comma, name] ++ next :: rest =
            tokens ++ comma :: name :: next :: rest := by
        simp
      rw [flat]
      refine ⟨Nat.lt_trans nameProgress (Nat.lt_trans commaProgress progress), ?_⟩
      rw [found, moreNames, dif_pos (by simpa using isComma), commaRead]
      simp only [bind, Except.bind]
      rw [nameRead]
      simp only [List.reverse_append, List.reverse_cons, List.reverse_nil,
        List.nil_append, List.singleton_append]

theorem selection_before
    (frame : Reader)
    {tokens rest : List Token}
    {selection : Selection}
    {next : Token}
    (selects : Selects tokens selection)
    (noComma : next.kind ≠ .comma) :
    ∃ progress,
      (frame.before (tokens ++ next :: rest)).selection =
        .ok
          { value := selection
            after := frame.before (next :: rest)
            progress := progress } := by
  cases selects with
  | @everything asterisk isAsterisk =>
      obtain ⟨progress, passed⟩ :=
        frame.advance_before
          (show next :: rest ≠ [] by simp)
          (show (frame.before (asterisk :: _)).current.kind ≠ .endOfInput by
            simp [isAsterisk])
      rw [List.singleton_append]
      refine ⟨progress, ?_⟩
      rw [Reader.selection, dif_pos (by simpa using isAsterisk), passed]
      rfl
  | columns lists =>
      obtain ⟨progress, found⟩ := selection_of_lists lists frame next rest
      refine ⟨progress, ?_⟩
      rw [found, moreNames, dif_neg (by simpa using noComma), List.reverse_reverse]
      rfl

theorem filter?_before
    {origin : Reader}
    (frame : Reader)
    {tokens : List Token}
    {filter? : Option Condition}
    {last : Token}
    (filters : Filters tokens filter?)
    (isEnd : last.kind = .endOfInput)
    (roomy :
      frame.depth + tokens.countP (·.kind = .leftParen) ≤ frame.maxDepth)
    (progress :
      (frame.before (tokens ++ [last])).pending < origin.pending) :
    ∃ laterProgress,
      Reader.filter? origin (frame.before (tokens ++ [last])) progress =
        .ok
          { value := filter?
            after := frame.before [last]
            progress := laterProgress } := by
  cases filters with
  | absent =>
      refine ⟨progress, ?_⟩
      rw [Reader.filter?, dif_neg (by simp [isEnd])]
      rfl
  | @present word tokens condition isWhere forms =>
      have roomyInside :
          frame.depth + tokens.countP (·.kind = .leftParen) ≤ frame.maxDepth := by
        simpa [isWhere] using roomy
      obtain ⟨wordProgress, wordRead⟩ :=
        frame.advance_before
          (show tokens ++ [last] ≠ [] by simp)
          (show (frame.before (word :: _)).current.kind ≠ .endOfInput by
            simp [isWhere])
      obtain ⟨conditionProgress, conditionRead⟩ :=
        frame.condition_before forms isEnd roomyInside
      refine
        ⟨Nat.lt_trans (Nat.lt_trans conditionProgress wordProgress) progress, ?_⟩
      have isWhereHere :
          (frame.before (word :: (tokens ++ [last]))).current.kind =
            .keyword .whereWord :=
        isWhere
      simp only [List.cons_append]
      rw [Reader.filter?, dif_pos isWhereHere, wordRead]
      simp only [bind, Except.bind]
      rw [conditionRead]
      rfl

/-- A sentence is read as its query if the limit counts all its parentheses. -/
theorem query_before
    {tokens : List Token}
    {query : Query}
    (sentence : Sentence tokens query)
    (frame : Reader)
    (roomy :
      frame.depth + tokens.countP (·.kind = .leftParen) ≤ frame.maxDepth) :
    (frame.before tokens).query = .ok query := by
  cases sentence with
  | @query select source table last selected filtered selection filter? isSelect
      selects isSource isTable filters isEnd =>
      have roomyInside :
          frame.depth + filtered.countP (·.kind = .leftParen) ≤
            frame.maxDepth := by
        simp only [List.cons_append, List.append_assoc, List.countP_cons,
          List.countP_append] at roomy
        omega
      obtain ⟨selectProgress, selectRead⟩ :=
        frame.expect_before [.keyword .selectWord] (by decide) isSelect
          (show selected ++ source :: table :: (filtered ++ [last]) ≠ [] by simp)
      obtain ⟨selectionProgress, selectionRead⟩ :=
        @selection_before frame _ (table :: (filtered ++ [last])) _ source selects
          (by simp [isSource])
      obtain ⟨sourceProgress, sourceRead⟩ :=
        frame.expect_before (selectionFollow selection) (by decide) isSource
          (show table :: (filtered ++ [last]) ≠ [] by simp)
      obtain ⟨tableProgress, tableRead⟩ :=
        frame.identifier_before [.identifier] isTable
          (show filtered ++ [last] ≠ [] by simp)
      obtain ⟨filterProgress, filterRead⟩ :=
        @filter?_before
          (frame.before
            (select :: (selected ++ source :: table :: (filtered ++ [last]))))
          frame _ _ _ filters isEnd roomyInside
          (Nat.lt_trans tableProgress
            (Nat.lt_trans sourceProgress
              (Nat.lt_trans selectionProgress selectProgress)))
      have flat :
          select :: selected ++ source :: table :: filtered ++ [last] =
            select :: (selected ++ source :: table :: (filtered ++ [last])) := by
        simp
      rw [flat, Reader.query, Reader.statement, selectRead]
      simp only [bind, Except.bind]
      rw [selectionRead]
      simp only
      rw [sourceRead]
      simp only
      rw [tableRead]
      simp only
      rw [filterRead]
      simp [Parsed.map, pure, Except.pure, isEnd]

end Reader

namespace Grammar

/-- A stream that is a sentence is read as its query if the limit is large enough. -/
theorem Sentence.ofStream_eq
    {tokens : List Token}
    {query : Query}
    {maxDepth : Nat}
    (sentence : Sentence tokens query)
    (roomy : tokens.countP (·.kind = .leftParen) ≤ maxDepth) :
    Query.ofStream { tokens := tokens, failure? := none } maxDepth = .ok query := by
  cases tokens with
  | nil =>
      simpa using sentence.path?_eq
  | cons token rest =>
      refine
        Reader.query_before sentence
          { current := token
            upcoming := []
            failure? := none
            depth := 0
            maxDepth := maxDepth } ?_
      simpa using roomy

/-- A row of tokens is one query at most. -/
theorem Sentence.unique
    {tokens : List Token}
    {query other : Query}
    (sentence : Sentence tokens query)
    (otherSentence : Sentence tokens other) :
    query = other := by
  have read := sentence.ofStream_eq (Nat.le_refl _)
  rw [otherSentence.ofStream_eq (Nat.le_refl _)] at read
  exact (Except.ok.inj read).symm

end Grammar

end SelectCypher
