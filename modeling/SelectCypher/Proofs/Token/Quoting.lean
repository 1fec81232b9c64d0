import SelectCypher.Proofs.Token.Lossless
import SelectCypher.Proofs.Token.Session

namespace SelectCypher

open Lexeme

/-!
# Strings in quotes and out of them

Doubled quotes are treated in three places: canonical text doubles every quote of a
content, a scanner passes quotes two by two until one stands alone, and a token joins
the pairs between its outer quotes.  The three agree on every content.  What canonical
text writes for it is scanned as one token, unless a quote behind it would double the
last one, and every string that is scanned is written as canonical text writes it.
-/

/-- A string literal whose text is the quoted form of a content and is read as it. -/
structure Token.Quotes
    (token : Token)
    (content : String) :
    Prop where
  kind : token.kind = .stringLiteral
  /-- Canonical text writes the content like this, character for character. -/
  written : token.text = (Literal.string content).canonical
  read : token.unquoted = content
  /-- A cut by bytes, one at each end, falls between characters: the outer quotes. -/
  inside :
    Span.Covers { start := 1, stop := byteLength token.text.toList - 1 }
      token.text.toList (Text.unwrapped token.text.toList)

theorem Token.Quotes.of_text
    {token : Token}
    {content : String}
    (kind : token.kind = .stringLiteral)
    (written : token.text = Text.quoted content) :
    token.Quotes content where
  kind := kind
  written := written
  read := by
    cases token
    cases kind
    cases written
    exact unquoted_quoted content _
  inside := by
    rw [written, Text.unwrapped_quoted]
    refine ⟨['\''], ['\''], ?_, rfl, ?_⟩
    · rw [Text.quoted_toList]
      rfl
    · have quote : byteLength ['\''] = 1 := rfl
      rw [Text.byteLength_quoted, byteLength_append, quote]
      show byteLength _ + 2 - 1 = _
      omega

/-! ## A quoted content in front of a scanner -/

namespace Scanner

/--
A scanner answers with a string literal that begins where the scanner stands, quotes a
content and covers all that is passed, so that the rest is left.
-/
def ReadsQuoted
    (scanner : Scanner)
    (content : String)
    (rest : List Char) :
    Prop :=
  ∃ token behind,
    scanner.nextToken = (.ok token, behind) ∧
      token.Quotes content ∧
      token.position = scanner.position ∧
      token.span.stop = behind.position.offset ∧
      behind.remaining = rest

variable {scanner : Scanner}
variable {content : String}
variable {rest : List Char}

/-- No layout stands in front of a quote. -/
theorem nextToken_of_quoted
    (shape : scanner.remaining = (Text.quoted content).toList ++ rest) :
    scanner.nextToken = scanner.tokenHere := by
  rw [Text.quoted_toList, List.cons_append, List.cons_append] at shape
  rw [nextToken, shape, Layout.lead_of_opensLexeme _ (by decide)]
  rfl

/-- Where no quote follows, the quoted form of a content is one token. -/
theorem nextToken_eq_of_quoted
    (shape : scanner.remaining = (Text.quoted content).toList ++ rest)
    (notQuote : rest.head? ≠ some '\'') :
    scanner.nextToken =
      (.ok
        { kind := .stringLiteral
          text := Text.quoted content
          position := scanner.position },
        scanner.past (Text.quoted content).toList rest) := by
  have spells : Spells .stringLiteral (Text.quoted content).toList :=
    TokenKind.HasForm.spells ⟨content, rfl⟩ (by simp)
  have ends : EndsBefore .stringLiteral (Text.quoted content).toList rest := by
    rintro next isFirst rfl
    exact notQuote isFirst
  rw [nextToken_of_quoted shape, tokenHere, shape, front_of_spells spells ends,
    ← skip_eq_past shape]
  simp only [List.take_left, String.ofList_toList]

/-- No quote is left behind a quoted form that is read: it would double the last one. -/
theorem ReadsQuoted.notQuote
    (reads : scanner.ReadsQuoted content rest)
    (shape : scanner.remaining = (Text.quoted content).toList ++ rest) :
    rest.head? ≠ some '\'' := by
  obtain ⟨token, behind, scanned, quotes, -⟩ := reads
  rw [nextToken_of_quoted shape, tokenHere] at scanned
  split at scanned
  · cases scanned
    cases quotes.kind
  · rename_i kind length measured
    cases scanned
    obtain ⟨spelled, later, cut, rfl, -, ends⟩ := spells_of_front measured
    -- The token is the quoted form itself, so it ends where the rest begins.
    have whole : spelled = (Text.quoted content).toList := by
      have sameText := congrArg String.toList quotes.written
      rw [String.toList_ofList, cut, List.take_left] at sameText
      exact sameText
    have isRest : rest = later := by
      rw [shape, whole, List.append_cancel_left_eq] at cut
      exact cut
    have isString : kind = .stringLiteral := quotes.kind
    rw [isString, ← isRest] at ends
    intro isQuote
    exact ends '\'' isQuote rfl
  · cases scanned
  · cases scanned

/-- The quoted form of a content is read unless a quote behind it doubles the last one. -/
theorem readsQuoted_iff
    (shape : scanner.remaining = (Text.quoted content).toList ++ rest) :
    scanner.ReadsQuoted content rest ↔ rest.head? ≠ some '\'' := by
  constructor
  · intro reads
    exact reads.notQuote shape
  · intro notQuote
    refine ⟨_, _, nextToken_eq_of_quoted shape notQuote, .of_text rfl rfl, rfl, ?_, rfl⟩
    exact (Position.after_offset _ _).symm

/-! ## Every token of a text -/

/-- Whatever token a scanner answers with has the form of its kind. -/
theorem hasForm_of_nextToken
    {behind : Scanner}
    {token : Token}
    (scanned : scanner.nextToken = (.ok token, behind)) :
    token.kind.HasForm token.text := by
  obtain ⟨gap, passed, rest, finding, shape, munches⟩ :=
    exists_munches scanner.remaining
  rw [munches.nextToken_eq shape] at scanned
  exact munches.hasForm (congrArg Prod.fst scanned)

end Scanner

/-- A token of a text, in whatever way it is come by. -/
inductive Token.ScannedFrom
    (token : Token)
    (text : String) :
    Prop
  /-- Some call is answered with it, in a session of any calls. -/
  | answered
      {calls : List Scanner.Call}
      {reply : Scanner.Reply} :
      reply ∈ ((Scanner.Session.ofText text).run calls).1 →
      reply.answer? = some (.ok token) →
      ScannedFrom token text
  /-- It stands before the first lexical error, if there is one. -/
  | listed :
      token ∈ (TokenStream.ofText text).tokens →
      ScannedFrom token text

theorem Token.ScannedFrom.hasForm
    {token : Token}
    {text : String}
    (scanned : token.ScannedFrom text) :
    token.kind.HasForm token.text := by
  cases scanned with
  | answered replied isAnswer =>
      obtain ⟨scanner, behind, answers⟩ :=
        Scanner.Session.exists_scan_of_run replied isAnswer
      exact Scanner.hasForm_of_nextToken answers
  | listed member =>
      exact TokenStream.hasForm .start text.toList token member

/--
Quoting and unquoting are inverse through a scanner.  Wherever it stands in front of the
canonical text of a string, it reads that text as one token with the string as its
content, unless a quote follows; and every string literal of any text is the canonical
text of its own content.
-/
theorem quoting_inverse :
    (∀ (scanner : Scanner) (content : String) (rest : List Char),
      scanner.remaining = (Literal.string content).canonical.toList ++ rest →
      (scanner.ReadsQuoted content rest ↔ rest.head? ≠ some '\'')) ∧
    ∀ (text : String) (token : Token),
      token.ScannedFrom text →
      token.kind = .stringLiteral →
      token.Quotes token.unquoted := by
  constructor
  · intro scanner content rest shape
    exact Scanner.readsQuoted_iff shape
  · intro text token scanned kind
    exact .of_text kind (scanned.hasForm.eq_quoted kind)

/-- Quotes at both ends and a wide character, before a comment and behind an error. -/
theorem quoting_inverse_accented :
    let content := "'é''"
    let rest := "--'".toList
    let scanner : Scanner :=
      { remaining := "'''é'''''--'".toList
        position := { offset := 2, line := 1, column := 3 }
        exhausted := false }
    let text := "! '''é'''''"
    let token : Token :=
      { kind := .stringLiteral
        text := "'''é'''''"
        position := { offset := 2, line := 1, column := 3 } }
    scanner.remaining = (Literal.string content).canonical.toList ++ rest ∧
      rest.head? ≠ some '\'' ∧
      scanner.ReadsQuoted content rest ∧
      token.ScannedFrom text ∧
      token.kind = .stringLiteral ∧
      token.Quotes token.unquoted ∧
      token.unquoted = content := by
  intro content rest scanner text token
  have shape :
      scanner.remaining = (Literal.string content).canonical.toList ++ rest := by
    decide +kernel
  have notQuote : rest.head? ≠ some '\'' := by decide
  have answered :
      ((Scanner.Session.ofText text).run [.next, .nextToken]).1[1]? =
        some (.token (.ok token)) := by
    decide +kernel
  have scanned : token.ScannedFrom text :=
    .answered (List.mem_of_getElem? answered) rfl
  exact ⟨shape, notQuote, (quoting_inverse.1 scanner content rest shape).mpr notQuote,
    scanned, rfl, quoting_inverse.2 text token scanned rfl, by decide +kernel⟩

end SelectCypher
