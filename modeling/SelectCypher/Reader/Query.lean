import SelectCypher.Query.Limits
import SelectCypher.Reader.Condition

namespace SelectCypher

/-!
# Reading a query

A query is `SELECT`, a selection, `FROM`, a table and, after `WHERE`, a
condition; nothing may follow it.  The kinds reported as expected are exactly
those with which a query could go on at that place.
-/

namespace Reader

/--
Read the rest of a list of names, which commas separate.  The names found so far
are given in reverse.
-/
def moreNames
    (origin : Reader)
    (found : List Identifier)
    (reader : Reader)
    (progress : reader.pending < origin.pending) :
    Except QueryError (Parsed origin (List Identifier)) :=
  if separated : reader.current.kind = .comma then do
    let comma ← reader.advance (by simp [separated])
    let name ← comma.after.identifier [.identifier]
    moreNames origin (name.value :: found) name.after
      (by
        have first := comma.progress
        have second := name.progress
        omega)
  else
    .ok { value := found.reverse, after := reader, progress := progress }
termination_by reader.pending
decreasing_by exact Nat.lt_trans name.progress comma.progress

/-- Read an asterisk or a list of column names. -/
def selection (reader : Reader) : Except QueryError (Parsed reader Selection) :=
  if asterisk : reader.current.kind = .asterisk then do
    let passed ← reader.advance (by simp [asterisk])
    return passed.map fun _ => .everything
  else do
    let first ← reader.identifier [.asterisk, .identifier]
    let names ← moreNames reader [first.value] first.after first.progress
    return names.map .columns

/-- What may follow a selection: `FROM`, or first more names of a list. -/
def selectionFollow : Selection → List TokenKind
  | .everything =>
      [.keyword .fromWord]
  | .columns _ =>
      [.comma, .keyword .fromWord]

/-- Read the condition behind `WHERE`, if there is one. -/
def filter?
    (origin : Reader)
    (reader : Reader)
    (progress : reader.pending < origin.pending) :
    Except QueryError (Parsed origin (Option Condition)) :=
  if filtered : reader.current.kind = .keyword .whereWord then do
    let passed ← reader.advance (by simp [filtered])
    let condition ← passed.after.condition 0
    return ((condition.map some).behind passed.progress).behind progress
  else
    .ok { value := none, after := reader, progress := progress }

/-- Read a query up to where it could end. -/
def statement (reader : Reader) : Except QueryError (Parsed reader Query) := do
  let opening ←
    reader.expect (.keyword .selectWord) [.keyword .selectWord]
  let selection ← opening.after.selection
  let middle ←
    selection.after.expect (.keyword .fromWord)
      (selectionFollow selection.value)
  let table ← middle.after.identifier [.identifier]
  let filter ←
    filter? reader table.after
      (by
        have first := opening.progress
        have second := selection.progress
        have third := middle.progress
        have fourth := table.progress
        omega)
  return filter.map fun condition? =>
    { selection := selection.value
      table := table.value
      filter? := condition? }

/-- What may follow a complete query: its end, or more of its condition. -/
def queryFollow (query : Query) : List TokenKind :=
  if query.filter?.isSome then
    [.keyword .andWord, .keyword .orWord, .endOfInput]
  else
    [.keyword .whereWord, .endOfInput]

/-- Read a whole query, behind which the input must end. -/
def query (reader : Reader) : Except QueryError Query := do
  let read ← reader.statement
  if read.after.current.kind = .endOfInput then
    return read.value
  else
    throw (read.after.unexpected (queryFollow read.value))

end Reader

/--
Fail if a text has more characters than a limit.  Characters are counted only if
the text has more bytes than that, since no text has more characters than bytes.
-/
def checkLength
    (text : String)
    (limit : Nat) :
    Except QueryError Unit :=
  if byteLength text.toList ≤ limit then
    .ok ()
  else if limit < text.toList.length then
    .error (.tooLong text.toList.length limit)
  else
    .ok ()

/-- Check a text against the length limit, if there is one. -/
def Limits.checkText
    (limits : Limits)
    (text : String) :
    Except QueryError Unit :=
  match limits.maxLength? with
  | none =>
      .ok ()
  | some limit =>
      checkLength text limit

/-- The query a token stream holds. -/
def Query.ofStream
    (stream : TokenStream)
    (maxDepth : Nat) :
    Except QueryError Query := do
  let reader ← Reader.start stream maxDepth
  reader.query

/-- The query a text holds, within limits. -/
def Query.ofText
    (text : String)
    (limits : Limits := {}) :
    Except QueryError Query := do
  limits.checkText text
  Query.ofStream (.ofText text) limits.maxDepth

end SelectCypher
