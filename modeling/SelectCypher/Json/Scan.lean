import SelectCypher.Json.Token

namespace SelectCypher.Json

/-!
# Splitting JSON text into tokens

Spaces, tabs, line feeds and carriage returns separate tokens.  A number is an
integer without superfluous zeros, with a fraction or an exponent behind it.
Inside a string an escape stands for one character or for one unit of UTF-16,
two of which may make a character.
-/

/-- The white space of JSON. -/
def isSpace (character : Char) : Bool :=
  character = ' ' || character = '\t' || character = '\n' || character = '\r'

/-- A part of a string: a character or a unit of UTF-16 given by its number. -/
inductive StringPart
  | character (value : Char)
  | unit (value : Nat)
  deriving Repr, DecidableEq

/-- A unit that begins a pair. -/
def isHighSurrogate (unit : Nat) : Bool :=
  0xD800 ≤ unit && unit < 0xDC00

/-- A unit that ends a pair. -/
def isLowSurrogate (unit : Nat) : Bool :=
  0xDC00 ≤ unit && unit < 0xE000

/-- The character that a pair of units makes. -/
def pairedChar (high low : Nat) : Char :=
  Char.ofNat (0x10000 + (high - 0xD800) * 0x400 + (low - 0xDC00))

/-- The characters that parts of a string make, unless half a pair is left over. -/
def joinParts? : List StringPart → Option (List Char)
  | [] =>
      some []
  | .character value :: rest =>
      (joinParts? rest).map (value :: ·)
  | .unit high :: .unit low :: rest =>
      if isHighSurrogate high && isLowSurrogate low then
        (joinParts? rest).map (pairedChar high low :: ·)
      else if isHighSurrogate high || isLowSurrogate high then
        none
      else
        (joinParts? (.unit low :: rest)).map (Char.ofNat high :: ·)
  | .unit value :: rest =>
      if isHighSurrogate value || isLowSurrogate value then
        none
      else
        (joinParts? rest).map (Char.ofNat value :: ·)

/-- The value of a hexadecimal digit in either case. -/
def hexDigit? (character : Char) : Option Nat :=
  if character.isDigit then
    some (character.toNat - '0'.toNat)
  else if 'a' ≤ character ∧ character ≤ 'f' then
    some (character.toNat - 'a'.toNat + 10)
  else if 'A' ≤ character ∧ character ≤ 'F' then
    some (character.toNat - 'A'.toNat + 10)
  else
    none

/-- The number four hexadecimal digits stand for. -/
def hexUnit?
    (first second third fourth : Char) :
    Option Nat := do
  let a ← hexDigit? first
  let b ← hexDigit? second
  let c ← hexDigit? third
  let d ← hexDigit? fourth
  return ((a * 16 + b) * 16 + c) * 16 + d

/-- The character a letter stands for behind a backslash. -/
def escaped? : Char → Option Char
  | '"' => some '"'
  | '\\' => some '\\'
  | '/' => some '/'
  | 'b' => some '\x08'
  | 'f' => some '\x0c'
  | 'n' => some '\n'
  | 'r' => some '\r'
  | 't' => some '\t'
  | _ => none

/--
The parts of a string whose opening quote has been passed, and the text behind
its closing quote.  The parts read so far are given in reverse.
-/
def stringParts?
    (read : List StringPart) :
    List Char →
      Option (List StringPart × List Char)
  | '"' :: rest =>
      some (read.reverse, rest)
  | '\\' :: 'u' :: first :: second :: third :: fourth :: rest =>
      match hexUnit? first second third fourth with
      | some unit =>
          stringParts? (.unit unit :: read) rest
      | none =>
          none
  | '\\' :: letter :: rest =>
      match escaped? letter with
      | some character =>
          stringParts? (.character character :: read) rest
      | none =>
          none
  | character :: rest =>
      if character.toNat < 0x20 then
        none
      else
        stringParts? (.character character :: read) rest
  | [] =>
      none

/-- The token of a string given by its parts. -/
def stringToken (parts : List StringPart) : Token :=
  match joinParts? parts with
  | some content =>
      .string (String.ofList content)
  | none =>
      .brokenString

/-- Some digits at the front of a text, at least one, and the text behind them. -/
def digits? (text : List Char) : Option (List Char × List Char) :=
  if text.takeWhile Char.isDigit = [] then
    none
  else
    some (text.takeWhile Char.isDigit, text.dropWhile Char.isDigit)

/-- The whole part of a number: one zero, or digits of which the first is none. -/
def wholePart? (text : List Char) : Option (List Char × List Char) :=
  match digits? text with
  | some ('0' :: _ :: _, _) =>
      none
  | found =>
      found

/-- The fraction of a number, which may be empty. -/
def fraction? : List Char → Option (List Char × List Char)
  | '.' :: rest =>
      (digits? rest).map fun (digits, behind) => ('.' :: digits, behind)
  | text =>
      some ([], text)

/-- The sign of an exponent, which may be empty. -/
def exponentSign : List Char → List Char × List Char
  | '+' :: rest =>
      (['+'], rest)
  | '-' :: rest =>
      (['-'], rest)
  | text =>
      ([], text)

/-- The exponent of a number, which may be empty. -/
def exponent? (text : List Char) : Option (List Char × List Char) :=
  match text with
  | [] =>
      some ([], [])
  | letter :: rest =>
      if letter = 'e' ∨ letter = 'E' then
        (digits? (exponentSign rest).2).map fun (digits, behind) =>
          (letter :: (exponentSign rest).1 ++ digits, behind)
      else
        some ([], text)

/-- The number behind its sign, and the text behind the number. -/
def unsigned? (text : List Char) : Option (List Char × List Char) := do
  let (whole, behindWhole) ← wholePart? text
  let (fraction, behindFraction) ← fraction? behindWhole
  let (exponent, behind) ← exponent? behindFraction
  return (whole ++ fraction ++ exponent, behind)

/-- The token of a number. -/
def numberToken (text : List Char) : Token :=
  .number (String.ofList text)

/-- The token a text without white space in front begins with, and what follows. -/
def front? : List Char → Option (Token × List Char)
  | '{' :: rest => some (.openObject, rest)
  | '}' :: rest => some (.closeObject, rest)
  | '[' :: rest => some (.openArray, rest)
  | ']' :: rest => some (.closeArray, rest)
  | ',' :: rest => some (.comma, rest)
  | ':' :: rest => some (.colon, rest)
  | 'n' :: 'u' :: 'l' :: 'l' :: rest => some (.null, rest)
  | 't' :: 'r' :: 'u' :: 'e' :: rest => some (.bool true, rest)
  | 'f' :: 'a' :: 'l' :: 's' :: 'e' :: rest => some (.bool false, rest)
  | '"' :: rest =>
      (stringParts? [] rest).map fun (parts, behind) => (stringToken parts, behind)
  | '-' :: rest =>
      (unsigned? rest).map fun (number, behind) => (numberToken ('-' :: number), behind)
  | text =>
      (unsigned? text).map fun (number, behind) => (numberToken number, behind)

theorem stringParts?_shortens
    {read parts : List StringPart}
    {text behind : List Char}
    (found : stringParts? read text = some (parts, behind)) :
    behind.length < text.length := by
  fun_induction stringParts? read text with
  | case1 read rest =>
      simp only [Option.some.injEq, Prod.mk.injEq] at found
      simp [found.2]
  | case2 read first second third fourth rest unit value inductionHypothesis =>
      have shorter := inductionHypothesis found
      simp only [List.length_cons]
      omega
  | case3 =>
      simp at found
  | case4 read letter rest notUnit character plain inductionHypothesis =>
      have shorter := inductionHypothesis found
      simp only [List.length_cons]
      omega
  | case5 =>
      simp at found
  | case6 =>
      simp at found
  | case7 read character rest notQuote notUnit notEscape plain inductionHypothesis =>
      have shorter := inductionHypothesis found
      simp only [List.length_cons]
      omega
  | case8 =>
      simp at found

theorem digits?_shortens
    {text digits behind : List Char}
    (found : digits? text = some (digits, behind)) :
    behind.length < text.length := by
  unfold digits? at found
  split at found
  · simp at found
  · rename_i someDigits
    simp only [Option.some.injEq, Prod.mk.injEq] at found
    obtain ⟨-, rfl⟩ := found
    have split := congrArg List.length
      (List.takeWhile_append_dropWhile (p := Char.isDigit) (l := text))
    have positive := List.length_pos_iff.mpr someDigits
    rw [List.length_append] at split
    omega

theorem fraction?_length
    {text fraction behind : List Char}
    (found : fraction? text = some (fraction, behind)) :
    behind.length ≤ text.length := by
  unfold fraction? at found
  split at found
  · simp only [Option.map_eq_some_iff, Prod.exists, Prod.mk.injEq] at found
    obtain ⟨digits, _, shape, -, rfl⟩ := found
    have shorter := digits?_shortens shape
    simp only [List.length_cons]
    omega
  · simp only [Option.some.injEq, Prod.mk.injEq] at found
    simp [found.2]

theorem exponentSign_length
    (text : List Char) :
    (exponentSign text).2.length ≤ text.length := by
  unfold exponentSign
  split <;> simp

theorem exponent?_length
    {text exponent behind : List Char}
    (found : exponent? text = some (exponent, behind)) :
    behind.length ≤ text.length := by
  unfold exponent? at found
  split at found
  · simp only [Option.some.injEq, Prod.mk.injEq] at found
    simp [found.2]
  · rename_i letter rest
    split at found
    · simp only [Option.map_eq_some_iff, Prod.exists, Prod.mk.injEq] at found
      obtain ⟨digits, _, shape, -, rfl⟩ := found
      have shorter := digits?_shortens shape
      have signed := exponentSign_length rest
      simp only [List.length_cons]
      omega
    · simp only [Option.some.injEq, Prod.mk.injEq] at found
      simp [← found.2]

theorem wholePart?_shortens
    {text whole behind : List Char}
    (found : wholePart? text = some (whole, behind)) :
    behind.length < text.length := by
  unfold wholePart? at found
  split at found
  · simp at found
  · exact digits?_shortens found

theorem unsigned?_shortens
    {text number behind : List Char}
    (found : unsigned? text = some (number, behind)) :
    behind.length < text.length := by
  simp only [unsigned?, bind, Option.bind_eq_some_iff, Prod.exists, pure,
    Option.some.injEq, Prod.mk.injEq] at found
  obtain ⟨_, _, wholeRead, _, _, fractionRead, _, _, exponentRead, -, rfl⟩ := found
  have first := wholePart?_shortens wholeRead
  have second := fraction?_length fractionRead
  have third := exponent?_length exponentRead
  omega

/-- A token uses up at least one character. -/
theorem front?_shortens
    {text behind : List Char}
    {token : Token}
    (found : front? text = some (token, behind)) :
    behind.length < text.length := by
  unfold front? at found
  split at found
  case h_10 =>
    simp only [Option.map_eq_some_iff, Prod.exists, Prod.mk.injEq] at found
    obtain ⟨_, _, shape, -, rfl⟩ := found
    have shorter := stringParts?_shortens shape
    simp only [List.length_cons]
    omega
  case h_11 =>
    simp only [Option.map_eq_some_iff, Prod.exists, Prod.mk.injEq] at found
    obtain ⟨_, _, shape, -, rfl⟩ := found
    have shorter := unsigned?_shortens shape
    simp only [List.length_cons]
    omega
  case h_12 =>
    simp only [Option.map_eq_some_iff, Prod.exists, Prod.mk.injEq] at found
    obtain ⟨_, _, shape, -, rfl⟩ := found
    exact unsigned?_shortens shape
  all_goals
    simp only [Option.some.injEq, Prod.mk.injEq] at found
    simp only [← found.2, List.length_cons]
    omega

/--
The tokens of a text.  From where it stops to be JSON on, a text has the one
token `unreadable`.
-/
def scan (text : List Char) : List Token :=
  match text with
  | [] =>
      []
  | character :: rest =>
      if isSpace character then
        scan rest
      else
        match _ : front? (character :: rest) with
        | some (token, behind) =>
            token :: scan behind
        | none =>
            [.unreadable]
termination_by text.length
decreasing_by
  · simp
  · exact front?_shortens (by assumption)

end SelectCypher.Json
