namespace SelectCypher.Text

/-!
# White space around a text

The characters with the Unicode property `White_Space`, and a text without
those it begins and ends with.
-/

/-- The Unicode property `White_Space`. -/
def isBlank (character : Char) : Bool :=
  let code := character.toNat
  (0x0009 ≤ code && code ≤ 0x000D) ||
    code == 0x0020 || code == 0x0085 || code == 0x00A0 || code == 0x1680 ||
    (0x2000 ≤ code && code ≤ 0x200A) ||
    code == 0x2028 || code == 0x2029 || code == 0x202F || code == 0x205F ||
    code == 0x3000

/-- A text without the white space it ends with. -/
def dropBlankEnd (text : List Char) : List Char :=
  (text.reverse.dropWhile isBlank).reverse

/-- A text without the white space it begins and ends with. -/
def trim (text : String) : String :=
  String.ofList (dropBlankEnd (text.toList.dropWhile isBlank))

end SelectCypher.Text
