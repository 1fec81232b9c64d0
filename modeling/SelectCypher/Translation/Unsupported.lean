import SelectCypher.Source.Bytes
import SelectCypher.Token.Stream

namespace SelectCypher

/-!
# Words of unsupported statements

Words that begin other statements are refused wherever they stand as names.  The
search goes on behind an unexpected character, as if the text began there; an
unterminated string or comment ends it.
-/

/-- The words that begin statements other than a selection. -/
def unsupportedKeywords : List String :=
  ["DROP", "DELETE", "UPDATE", "INSERT", "CREATE", "ALTER", "TRUNCATE", "GRANT",
    "REVOKE", "EXEC", "EXECUTE"]

/-- The unsupported word a name spells, whatever the case of its letters. -/
def unsupportedWord? (name : String) : Option String :=
  unsupportedKeywords.find? fun word => Text.sameIgnoringCase word name

/-- The unsupported word a token spells, if it is a name. -/
def Token.unsupportedWord? (token : Token) : Option String :=
  if token.kind = .identifier then
    SelectCypher.unsupportedWord? token.text
  else
    none

/-- The byte offset behind an unexpected character. -/
def LexicalError.resumeOffset? (error : LexicalError) : Option Nat :=
  if error.cause = .unexpectedCharacter then
    some (error.position.offset + error.character.utf8Size)
  else
    none

theorem LexicalError.resumeOffset?_pos
    {error : LexicalError}
    {offset : Nat}
    (resumes : error.resumeOffset? = some offset) :
    0 < offset := by
  unfold resumeOffset? at resumes
  split at resumes
  · have positive := error.character.utf8Size_pos
    simp only [Option.some.injEq] at resumes
    omega
  · simp at resumes

/-- What is left of a text behind the unexpected character its tokens end at. -/
def resumeText?
    (text : List Char)
    (failure? : Option LexicalError) :
    Option (List Char) := do
  let failure ← failure?
  let offset ← failure.resumeOffset?
  dropBytes? offset text

theorem resumeText?_shortens
    {text rest : List Char}
    {failure? : Option LexicalError}
    (resumes : resumeText? text failure? = some rest) :
    rest.length < text.length := by
  simp only [resumeText?, bind, Option.bind_eq_some_iff] at resumes
  obtain ⟨failure, -, offset, found, cut⟩ := resumes
  exact dropBytes?_shortens (failure.resumeOffset?_pos found) cut

/-- The first unsupported word that stands as a name in a text. -/
def findUnsupported? (text : List Char) : Option String :=
  let stream := (Scanner.ofChars text).stream
  match stream.tokens.findSome? Token.unsupportedWord? with
  | some word =>
      some word
  | none =>
      match _ : resumeText? text stream.failure? with
      | some rest =>
          findUnsupported? rest
      | none =>
          none
termination_by text.length
decreasing_by exact resumeText?_shortens (by assumption)

end SelectCypher
