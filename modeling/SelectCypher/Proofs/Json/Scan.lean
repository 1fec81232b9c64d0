import SelectCypher.Json.Scan
import SelectCypher.Json.Text

namespace SelectCypher.Json

/-!
# Written tokens are split again

The text of a token that ends by itself is read back as that token, whatever follows
it.  So the tokens of compact and of indented text are those it was written from.
-/

/-! ## Strings -/

/-- The part of a string that a written character is read as. -/
def stringPart (character : Char) : StringPart :=
  if shortEscape? character = none ∧ character.toNat < 0x20 then
    .unit character.toNat
  else
    .character character

/-- A short escape stands for the character it was written for. -/
theorem escaped?_of_shortEscape?
    {character letter : Char}
    (escapes : shortEscape? character = some letter) :
    escaped? letter = some character ∧ letter ≠ 'u' := by
  unfold shortEscape? at escapes
  split at escapes
  case h_8 =>
    cases escapes
  all_goals
    cases escapes
    exact ⟨rfl, by decide⟩

/-- Characters without a short escape are neither quotes nor backslashes. -/
theorem ne_of_shortEscape?_eq_none
    {character : Char}
    (plain : shortEscape? character = none) :
    character ≠ '"' ∧ character ≠ '\\' := by
  constructor
  · rintro rfl
    cases plain
  · rintro rfl
    cases plain

/-- The digits of a control character stand for its number. -/
theorem hexUnit?_fourDigits :
    ∀ code < 0x20,
      hexUnit? '0' '0' (code / 16 % 16).digitChar (code % 16).digitChar =
        some code := by
  decide

/-- A short escape is read as the character it stands for. -/
theorem stringParts?_escape
    {character letter : Char}
    (isEscape : escaped? letter = some character)
    (notUnit : letter ≠ 'u')
    (read : List StringPart)
    (rest : List Char) :
    stringParts? read ('\\' :: letter :: rest) =
      stringParts? (.character character :: read) rest := by
  rw [stringParts?.eq_3 _ _ _ fun _ _ _ _ _ isUnit _ => notUnit isUnit, isEscape]

/-- A control character without a short escape is read as a unit. -/
theorem stringParts?_control
    {code : Nat}
    (control : code < 0x20)
    (read : List StringPart)
    (rest : List Char) :
    stringParts? read ('\\' :: 'u' :: (fourDigits code ++ rest)) =
      stringParts? (.unit code :: read) rest := by
  have thousands : code / 4096 % 16 = 0 := by
    omega
  have hundreds : code / 256 % 16 = 0 := by
    omega
  simp only [fourDigits, thousands, hundreds, List.map_cons, List.map_nil,
    List.cons_append, List.nil_append, show Nat.digitChar 0 = '0' from rfl]
  rw [stringParts?.eq_2, hexUnit?_fourDigits code control]

/-- A character that needs no escape is read as itself. -/
theorem stringParts?_plain
    {character : Char}
    (plain : shortEscape? character = none)
    (notControl : ¬ character.toNat < 0x20)
    (read : List StringPart)
    (rest : List Char) :
    stringParts? read (character :: rest) =
      stringParts? (.character character :: read) rest := by
  obtain ⟨notQuote, notBackslash⟩ := ne_of_shortEscape?_eq_none plain
  rw [stringParts?.eq_4 _ _ _ notQuote
    (fun _ _ _ _ _ isBackslash _ => notBackslash isBackslash)
    (fun _ _ isBackslash _ => notBackslash isBackslash), if_neg notControl]

/-- A character is read back as its part, whatever follows it. -/
theorem stringParts?_stringChar
    (read : List StringPart)
    (character : Char)
    (rest : List Char) :
    stringParts? read (stringChar character ++ rest) =
      stringParts? (stringPart character :: read) rest := by
  unfold stringChar stringPart
  cases escapes : shortEscape? character with
  | some letter =>
      obtain ⟨isEscape, notUnit⟩ := escaped?_of_shortEscape? escapes
      simpa using stringParts?_escape isEscape notUnit read rest
  | none =>
      simp only [true_and]
      split
      · rename_i control
        exact stringParts?_control control read rest
      · rename_i notControl
        exact stringParts?_plain escapes notControl read rest

/-- A unit that is half of no pair makes a character by itself. -/
theorem joinParts?_unit
    {value : Nat}
    (rest : List StringPart)
    (small : value < 0xD800) :
    joinParts? (.unit value :: rest) =
      (joinParts? rest).map (Char.ofNat value :: ·) := by
  have notHigh : isHighSurrogate value = false := by
    simp [isHighSurrogate]
    omega
  have notLow : isLowSurrogate value = false := by
    simp [isLowSurrogate]
    omega
  cases rest with
  | nil =>
      simp [joinParts?, notHigh, notLow]
  | cons part more =>
      cases part with
      | character second =>
          simp [joinParts?, notHigh, notLow]
      | unit low =>
          rw [joinParts?]
          simp [notHigh, notLow]

/-- The parts of a written string join to its content. -/
theorem joinParts?_stringPart (content : List Char) :
    joinParts? (content.map stringPart) = some content := by
  induction content with
  | nil =>
      rfl
  | cons character rest inductionHypothesis =>
      rw [List.map_cons, stringPart]
      split
      · rename_i control
        rw [joinParts?_unit _ (by omega), inductionHypothesis, Char.ofNat_toNat]
        rfl
      · rw [joinParts?, inductionHypothesis]
        rfl

/-- The text of a string is read back, whatever follows it. -/
theorem front?_stringText
    (content : String)
    (rest : List Char) :
    front? (stringText content ++ rest) = some (.string content, rest) := by
  have parts :
      ∀ (read : List StringPart) (characters : List Char),
        stringParts? read (characters.flatMap stringChar ++ '"' :: rest) =
          some (read.reverse ++ characters.map stringPart, rest) := by
    intro read characters
    induction characters generalizing read with
    | nil =>
        simp [stringParts?]
    | cons character more inductionHypothesis =>
        rw [List.flatMap_cons, List.append_assoc, stringParts?_stringChar,
          inductionHypothesis]
        simp
  simp only [stringText, List.cons_append, List.nil_append, List.append_assoc, front?]
  rw [parts [] content.toList]
  simp [stringToken, joinParts?_stringPart]

/-! ## Rows of tokens -/

/-- Whether the text of a token ends by itself. -/
def Token.endsItself : Token → Bool
  | number _ | brokenString | unreadable => false
  | _ => true

theorem scan_space
    {space : Char}
    (rest : List Char)
    (separates : isSpace space = true) :
    scan (space :: rest) = scan rest := by
  rw [scan, if_pos separates]

/-- White space in front of a text is passed. -/
theorem scan_spaces
    {spaces : List Char}
    (rest : List Char)
    (separate : ∀ space ∈ spaces, isSpace space = true) :
    scan (spaces ++ rest) = scan rest := by
  induction spaces with
  | nil =>
      rfl
  | cons space more inductionHypothesis =>
      rw [List.cons_append, scan_space _ (separate space (by simp))]
      apply inductionHypothesis
      intro other member
      exact separate other (List.mem_cons_of_mem _ member)

/-- What stands at the front of a text, if it is no white space, comes first. -/
theorem scan_of_front?
    {first : Char}
    {text behind : List Char}
    {token : Token}
    (notSpace : isSpace first = false)
    (found : front? (first :: text) = some (token, behind)) :
    scan (first :: text) = token :: scan behind := by
  rw [scan, if_neg (by simp [notSpace])]
  split
  · rename_i other later same
    rw [found] at same
    cases same
    rfl
  · rename_i none
    rw [found] at none
    cases none

/-- The text of a token that ends by itself is read back, whatever follows it. -/
theorem scan_text
    {token : Token}
    (endsItself : token.endsItself = true)
    (rest : List Char) :
    scan (token.text ++ rest) = token :: scan rest := by
  cases token with
  | string content =>
      exact scan_of_front? rfl (front?_stringText content rest)
  | bool value =>
      cases value <;> exact scan_of_front? rfl rfl
  | number _ | brokenString | unreadable =>
      cases endsItself
  | _ =>
      exact scan_of_front? rfl rfl

/-- The compact text of tokens that end by themselves has these tokens. -/
theorem scan_compact
    {tokens : List Token}
    (endThemselves : ∀ token ∈ tokens, token.endsItself = true) :
    scan (compact tokens).toList = tokens := by
  rw [compact, String.toList_ofList]
  induction tokens with
  | nil =>
      rw [List.flatMap_nil, scan]
  | cons token rest inductionHypothesis =>
      simp only [List.forall_mem_cons] at endThemselves
      rw [List.flatMap_cons, scan_text endThemselves.1,
        inductionHypothesis endThemselves.2]

theorem isSpace_of_mem_newLine
    {depth : Nat}
    {character : Char}
    (member : character ∈ newLine depth) :
    isSpace character = true := by
  rcases List.mem_cons.mp member with rfl | inRest
  · rfl
  · rw [List.eq_of_mem_replicate inRest]
    rfl

theorem isSpace_of_mem_spaceBehind
    {depth : Nat}
    {token : Token}
    {character : Char}
    (member : character ∈ spaceBehind depth token) :
    isSpace character = true := by
  unfold spaceBehind at member
  split at member
  · exact isSpace_of_mem_newLine member
  · rw [List.mem_singleton.mp member]
    rfl
  · cases member

/-- White space that is written or left out. -/
theorem isSpace_of_mem_ite
    {written : Bool}
    {spaces others : List Char}
    (spaced : ∀ character ∈ spaces, isSpace character = true)
    (othersSpaced : ∀ character ∈ others, isSpace character = true) :
    ∀ character ∈ if written then spaces else others,
      isSpace character = true := by
  cases written with
  | false =>
      exact othersSpaced
  | true =>
      exact spaced

/-- Indentation adds white space only. -/
theorem scan_indentedFrom
    {tokens : List Token}
    (depth : Nat)
    (fresh : Bool)
    (endThemselves : ∀ token ∈ tokens, token.endsItself = true) :
    scan (indentedFrom depth fresh tokens) = tokens := by
  have noSpace : ∀ character ∈ [], isSpace character = true := by
    simp
  induction tokens generalizing depth fresh with
  | nil =>
      rw [indentedFrom, scan]
  | cons token rest inductionHypothesis =>
      simp only [List.forall_mem_cons] at endThemselves
      rw [indentedFrom]
      split
      · rw [List.append_assoc,
          scan_spaces _ (isSpace_of_mem_ite noSpace fun _ => isSpace_of_mem_newLine),
          scan_text endThemselves.1, inductionHypothesis _ _ endThemselves.2]
      · rw [List.append_assoc,
          scan_spaces _ (isSpace_of_mem_ite (fun _ => isSpace_of_mem_newLine) noSpace),
          scan_text endThemselves.1]
        split
        · rw [inductionHypothesis _ _ endThemselves.2]
        · rw [scan_spaces _ fun _ => isSpace_of_mem_spaceBehind,
            inductionHypothesis _ _ endThemselves.2]

/-- The indented text of tokens that end by themselves has these tokens. -/
theorem scan_indented
    {tokens : List Token}
    (endThemselves : ∀ token ∈ tokens, token.endsItself = true) :
    scan (indented tokens).toList = tokens := by
  rw [indented, String.toList_ofList]
  exact scan_indentedFrom 0 false endThemselves

end SelectCypher.Json
