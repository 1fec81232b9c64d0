namespace SelectCypher.Text

/-!
# Quoted text

Inside single quotes a query writes a quote twice.  `doubled` writes a content
that way, `collapsed` takes it back, scanning from the left and joining pairs
that do not overlap, and `quoted` adds the outer quotes.
-/

/-- A content with each single quote written twice. -/
def doubled (content : List Char) : List Char :=
  content.flatMap fun character =>
    if character = '\'' then ['\'', '\''] else [character]

/-- A text with each pair of single quotes joined into one. -/
def collapsed : List Char → List Char
  | '\'' :: '\'' :: rest =>
      '\'' :: collapsed rest
  | character :: rest =>
      character :: collapsed rest
  | [] =>
      []

/-- The quoted form of a content. -/
def quoted (content : String) : String :=
  "'" ++ String.ofList (doubled content.toList) ++ "'"

/-- A text without its first and its last character. -/
def unwrapped (text : List Char) : List Char :=
  (text.drop 1).dropLast

/-- Joining pairs takes back the doubling of quotes. -/
theorem collapsed_doubled
    (content : List Char) :
    collapsed (doubled content) = content := by
  induction content with
  | nil =>
      rfl
  | cons character rest inductionHypothesis =>
      by_cases isQuote : character = '\''
      · subst isQuote
        simpa [doubled, collapsed] using inductionHypothesis
      · have unchanged :
            doubled (character :: rest) = character :: doubled rest := by
          simp [doubled, isQuote]
        rw [unchanged, collapsed.eq_2 _ _ (by simp [isQuote]),
          inductionHypothesis]

end SelectCypher.Text
