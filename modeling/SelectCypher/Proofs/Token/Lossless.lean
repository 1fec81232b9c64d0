import SelectCypher.Proofs.Source.Position
import SelectCypher.Proofs.Token.Form
import SelectCypher.Proofs.Token.Gap

namespace SelectCypher

/-!
# Nothing is lost in tokens

A text that is tokenized consists of its tokens and of layout between them, so
that both together give the text back.  Each token covers its text exactly, the
tokens stand in the order of the text without overlap, and the end of input is the
last of them and the only one.
-/

/-- The bytes of a slice of a text, which begins and ends between characters. -/
def Span.Covers
    (span : Span)
    (text slice : List Char) :
    Prop :=
  ∃ front behind,
    text = front ++ (slice ++ behind) ∧
      span.start = byteLength front ∧
      span.stop = byteLength (front ++ slice)

/-- One token stands wholly before another. -/
def Token.Precedes (earlier later : Token) : Prop :=
  earlier.span.start < later.span.start ∧ earlier.span.stop ≤ later.span.start

/-- A gap, and the token behind it. -/
structure Piece where
  gap : List Char
  token : Token

namespace Piece

/-- The text of a gap and of the token behind it. -/
def text (piece : Piece) : List Char :=
  piece.gap ++ piece.token.text.toList

/-- The text of a row of pieces. -/
def texts (pieces : List Piece) : List Char :=
  pieces.flatMap text

@[simp] theorem texts_nil : texts [] = [] :=
  rfl

@[simp] theorem texts_cons
    (piece : Piece)
    (pieces : List Piece) :
    texts (piece :: pieces) = piece.text ++ texts pieces :=
  rfl

@[simp] theorem texts_append
    (first second : List Piece) :
    texts (first ++ second) = texts first ++ texts second := by
  simp [texts]

end Piece

/--
A text that begins at some position, in pieces that make up all of it: each token
stands behind its gap, which is layout.
-/
structure Pieces
    (position : Position)
    (text : List Char)
    (tokens : List Token)
    (pieces : List Piece) :
    Prop where
  tokens : pieces.map Piece.token = tokens
  rebuilds : Piece.texts pieces = text
  places :
    ∀ before piece behind,
      pieces = before ++ piece :: behind →
      piece.token.position = position.after (Piece.texts before ++ piece.gap)
  layout :
    ∀ before piece behind,
      pieces = before ++ piece :: behind →
      Layout.Fills piece.gap (piece.token.text.toList ++ Piece.texts behind)

/-- Tokens that give back, together with the layout between them, the whole text. -/
structure Lossless
    (text : List Char)
    (tokens : List Token) :
    Prop where
  inOrder : tokens.Pairwise Token.Precedes
  covers : ∀ token ∈ tokens, token.span.Covers text token.text.toList
  pieces : ∃ pieces, Pieces .start text tokens pieces
  formed : ∀ token ∈ tokens, token.kind.HasForm token.text
  ends :
    ∃ body position,
      tokens = body ++ [.endAt position] ∧
        position.offset = byteLength text ∧
        ∀ token ∈ body, token.kind ≠ .endOfInput ∧ token.text ≠ ""

namespace Pieces

variable {position : Position}
variable {text : List Char}
variable {tokens : List Token}
variable {pieces : List Piece}

/-- A piece in front of a text in pieces. -/
theorem cons
    {piece : Piece}
    (isPieces : Pieces (position.after piece.text) text tokens pieces)
    (place : piece.token.position = position.after piece.gap)
    (fills : Layout.Fills piece.gap (piece.token.text.toList ++ text)) :
    Pieces position (piece.text ++ text) (piece.token :: tokens)
      (piece :: pieces) where
  tokens := by
    rw [List.map_cons, isPieces.tokens]
  rebuilds := by
    rw [Piece.texts_cons, isPieces.rebuilds]
  places := by
    intro before other behind shape
    cases before with
    | nil =>
        cases shape
        exact place
    | cons first more =>
        cases shape
        rw [isPieces.places more other behind rfl, Piece.texts_cons,
          List.append_assoc, ← Position.after_append]
  layout := by
    intro before other behind shape
    cases before with
    | nil =>
        cases shape
        rw [isPieces.rebuilds]
        exact fills
    | cons first more =>
        cases shape
        exact isPieces.layout more other behind rfl

/-- The empty text has no pieces. -/
theorem nil (position : Position) : Pieces position [] [] [] where
  tokens := rfl
  rebuilds := rfl
  places := by
    intro before piece behind shape
    simp at shape
  layout := by
    intro before piece behind shape
    simp at shape

/-- A token of a text in pieces covers its slice of the text. -/
theorem covers
    (isPieces : Pieces .start text tokens pieces)
    {token : Token}
    (member : token ∈ tokens) :
    token.span.Covers text token.text.toList := by
  rw [← isPieces.tokens] at member
  obtain ⟨piece, inPieces, rfl⟩ := List.mem_map.mp member
  obtain ⟨before, behind, shape⟩ := List.append_of_mem inPieces
  have place := isPieces.places before piece behind shape
  have offset :
      piece.token.position.offset =
        byteLength (Piece.texts before ++ piece.gap) := by
    rw [place, Position.after_offset]
    exact Nat.zero_add _
  refine ⟨Piece.texts before ++ piece.gap, Piece.texts behind, ?_, offset, ?_⟩
  · rw [← isPieces.rebuilds, shape]
    simp [Piece.text]
  · rw [byteLength_append, ← offset]
    rfl

end Pieces

namespace Splits

variable {position : Position}
variable {text : List Char}
variable {tokens : List Token}

/-- A text that splits into tokens consists of pieces. -/
theorem exists_pieces
    (splits : Splits position text tokens) :
    ∃ pieces, Pieces position text tokens pieces := by
  induction splits with
  | @finished position text layout =>
      let last : Piece := { gap := text, token := .endAt (position.after text) }
      have fills : Layout.Fills text ([] ++ []) :=
        Layout.fills_of_lead (by simpa using layout)
      have isPieces : Pieces position (last.text ++ []) [last.token] [last] :=
        (Pieces.nil _).cons rfl fills
      refine ⟨[last], ?_⟩
      simpa [last, Piece.text, Token.endAt] using isPieces
  | @token position gap spelled rest kind tokens layout spells ends splits
      inductionHypothesis =>
      obtain ⟨pieces, isPieces⟩ := inductionHypothesis
      let piece : Piece :=
        { gap := gap
          token :=
            { kind := kind
              text := String.ofList spelled
              position := position.after gap } }
      have pieceText : piece.text = gap ++ spelled := by
        simp [piece, Piece.text]
      have fills : Layout.Fills gap (spelled ++ rest) :=
        Layout.fills_of_lead layout
      refine ⟨piece :: pieces, ?_⟩
      rw [← List.append_assoc, ← pieceText]
      apply Pieces.cons
      · rw [pieceText]
        exact isPieces
      · rfl
      · simpa [piece] using fills

/-- No token stands before the position at which its text begins. -/
theorem offset_le
    (splits : Splits position text tokens) :
    ∀ token ∈ tokens, position.offset ≤ token.position.offset := by
  intro token member
  obtain ⟨pieces, isPieces⟩ := splits.exists_pieces
  rw [← isPieces.tokens] at member
  obtain ⟨piece, inPieces, rfl⟩ := List.mem_map.mp member
  obtain ⟨before, behind, shape⟩ := List.append_of_mem inPieces
  rw [isPieces.places before piece behind shape, Position.after_offset]
  exact Nat.le_add_right _ _

/-- Each token stands wholly before the later ones. -/
theorem inOrder
    (splits : Splits position text tokens) :
    tokens.Pairwise Token.Precedes := by
  induction splits with
  | finished layout =>
      exact List.pairwise_singleton _ _
  | @token position gap spelled rest kind tokens layout spells ends splits
      inductionHypothesis =>
      apply List.Pairwise.cons _ inductionHypothesis
      intro later member
      have reached := splits.offset_le later member
      have someBytes : 0 < byteLength spelled := by
        obtain ⟨⟨first, more, rfl, -⟩, -⟩ := spells.ends
        have positive := first.utf8Size_pos
        rw [byteLength_cons]
        omega
      simp only [Position.after_offset, byteLength_append] at reached
      simp only [Token.Precedes, Token.span, Position.after_offset,
        String.toList_ofList]
      omega

end Splits

/--
Tokenizing loses nothing: the tokens cover their slices of the text one behind the
other, everything between them is layout, each has the form of its kind, and the
end of input stands at the end of the text only.
-/
theorem tokenize_lossless
    {text : String}
    {tokens : List Token}
    (tokenized : tokenize text = .ok tokens) :
    Lossless text.toList tokens := by
  have splits := tokenize_eq_ok_iff.mp tokenized
  obtain ⟨pieces, isPieces⟩ := splits.exists_pieces
  obtain ⟨body, shape, someText⟩ := splits.exists_body
  have endOffset :
      (Position.start.after text.toList).offset = byteLength text.toList := by
    rw [Position.after_offset]
    exact Nat.zero_add _
  exact {
    inOrder := splits.inOrder
    covers := fun token member => isPieces.covers member
    pieces := ⟨pieces, isPieces⟩
    formed := splits.hasForm
    ends := ⟨body, _, shape, endOffset, someText⟩ }

/-- Comments of all styles, a doubled quote and a character of two bytes. -/
theorem tokenize_lossless_commented :
    let text := "a/**/!='é''' // x\n-- y"
    let tokens : List Token :=
      [{ kind := .identifier
         text := "a"
         position := { offset := 0, line := 1, column := 1 } },
       { kind := .operator .notEqual
         text := "!="
         position := { offset := 5, line := 1, column := 6 } },
       { kind := .stringLiteral
         text := "'é'''"
         position := { offset := 7, line := 1, column := 8 } },
       .endAt { offset := 23, line := 2, column := 5 }]
    tokenize text = .ok tokens ∧ Lossless text.toList tokens := by
  intro text tokens
  have tokenized : tokenize text = .ok tokens := by decide +kernel
  exact ⟨tokenized, tokenize_lossless tokenized⟩

end SelectCypher
