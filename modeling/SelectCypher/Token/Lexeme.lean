import SelectCypher.Token.Basic

namespace SelectCypher.Lexeme

/-!
# What stands at the front of a text

Operators and marks, quoted strings, numbers and words, each measured in
characters.  Of several operators that fit, the longest is taken; a number takes
its fraction only if a digit follows the point; a quoted string ends at the
first quote that is not doubled.
-/

/-- The operator or mark a text begins with, and its length. -/
def symbol? : List Char → Option (TokenKind × Nat)
  | '<' :: '=' :: _ =>
      some (.operator .lessOrEqual, 2)
  | '<' :: '>' :: _ =>
      some (.operator .notEqual, 2)
  | '<' :: _ =>
      some (.operator .less, 1)
  | '>' :: '=' :: _ =>
      some (.operator .greaterOrEqual, 2)
  | '>' :: _ =>
      some (.operator .greater, 1)
  | '!' :: '=' :: _ =>
      some (.operator .notEqual, 2)
  | '=' :: _ =>
      some (.operator .equal, 1)
  | '(' :: _ =>
      some (.leftParen, 1)
  | ')' :: _ =>
      some (.rightParen, 1)
  | ',' :: _ =>
      some (.comma, 1)
  | '*' :: _ =>
      some (.asterisk, 1)
  | _ =>
      none

/-- Length of a string up to its closing quote, added to the characters passed. -/
def stringEnd?
    (passed : Nat) :
    List Char →
      Option Nat
  | '\'' :: '\'' :: rest =>
      stringEnd? (passed + 2) rest
  | '\'' :: _ =>
      some (passed + 1)
  | _ :: rest =>
      stringEnd? (passed + 1) rest
  | [] =>
      none

/-- Number of digits a text begins with. -/
def digitsLength (text : List Char) : Nat :=
  (text.takeWhile Char.isDigit).length

/-- Length of the fraction a text begins with: a point and at least one digit. -/
def fractionLength : List Char → Nat
  | '.' :: rest =>
      if digitsLength rest = 0 then 0 else digitsLength rest + 1
  | _ =>
      0

/-- Length of the number a text begins with. -/
def numberLength (text : List Char) : Nat :=
  digitsLength text + fractionLength (text.drop (digitsLength text))

/-- The word a text begins with. -/
def word (text : List Char) : List Char :=
  text.takeWhile Text.isNamePart

/-- What a text with no layout before it begins with. -/
inductive Front
  /-- The text is empty. -/
  | finished
  /-- A token of so many characters. -/
  | token (kind : TokenKind) (length : Nat)
  /-- A quote that opens a string without an end. -/
  | openString
  /-- A character that begins no token. -/
  | stray (character : Char)
  deriving Repr, DecidableEq

/-- What a text begins with when its first character begins no operator or mark. -/
def frontOther (text : List Char) : Front :=
  match text with
  | [] =>
      .finished
  | '\'' :: rest =>
      match stringEnd? 1 rest with
      | some length =>
          .token .stringLiteral length
      | none =>
          .openString
  | character :: _ =>
      if character.isDigit then
        .token .number (numberLength text)
      else if Text.isNameStart character then
        .token (.ofWord (String.ofList (word text))) (word text).length
      else
        .stray character

/-- What a text begins with. -/
def front (text : List Char) : Front :=
  match symbol? text with
  | some (kind, length) =>
      .token kind length
  | none =>
      frontOther text

theorem symbol?_length
    {text : List Char}
    {kind : TokenKind}
    {length : Nat}
    (found : symbol? text = some (kind, length)) :
    0 < length ∧ length ≤ text.length := by
  unfold symbol? at found
  split at found <;>
    simp_all only [Option.some.injEq, Prod.mk.injEq, List.length_cons,
      reduceCtorEq] <;>
    omega

theorem stringEnd?_bounds
    {passed length : Nat}
    {text : List Char}
    (found : stringEnd? passed text = some length) :
    passed < length ∧ length ≤ passed + text.length := by
  fun_induction stringEnd? passed text with
  | case1 passed rest inductionHypothesis =>
      have bounds := inductionHypothesis found
      simp only [List.length_cons]
      omega
  | case2 passed rest =>
      simp only [Option.some.injEq] at found
      simp only [List.length_cons]
      omega
  | case3 passed character rest notPair notQuote inductionHypothesis =>
      have bounds := inductionHypothesis found
      simp only [List.length_cons]
      omega
  | case4 passed =>
      simp at found

theorem word_length_pos
    {character : Char}
    {rest : List Char}
    (opens : Text.isNameStart character = true) :
    0 < (word (character :: rest)).length := by
  have inside : Text.isNamePart character = true := by
    simp only [Text.isNameStart, Text.isNamePart, Char.isAlphanum,
      Bool.or_eq_true] at opens ⊢
    rcases opens with letter | underscore
    · exact .inl (.inl letter)
    · exact .inr underscore
  simp [word, inside]

theorem numberLength_pos
    {character : Char}
    {rest : List Char}
    (digit : character.isDigit = true) :
    0 < numberLength (character :: rest) := by
  have counted : 0 < digitsLength (character :: rest) := by
    simp [digitsLength, digit]
  unfold numberLength
  omega

/-- A token at the front of a text has at least one character. -/
theorem front_token_pos
    {text : List Char}
    {kind : TokenKind}
    {length : Nat}
    (found : front text = .token kind length) :
    0 < length ∧ text ≠ [] := by
  unfold front at found
  split at found
  · rename_i shape
    cases found
    refine ⟨(symbol?_length shape).1, ?_⟩
    rintro rfl
    simp [symbol?] at shape
  · unfold frontOther at found
    split at found
    · simp at found
    · split at found
      · rename_i rest length shape
        cases found
        exact ⟨by have := stringEnd?_bounds shape; omega, by simp⟩
      · simp at found
    · rename_i character rest notQuote
      refine ⟨?_, by simp⟩
      split at found
      · rename_i digit
        cases found
        exact numberLength_pos digit
      · split at found
        · rename_i opens
          cases found
          exact word_length_pos opens
        · simp at found

end SelectCypher.Lexeme
