import SelectCypher.Text.LetterCase

namespace SelectCypher.Cypher

/-!
# Node labels

A table becomes a node label with its first character in upper case and all
others in lower case, so spellings of a table that differ only in letter case
give one label.
-/

/-- The node label of a table. -/
def label (table : String) : String :=
  match table.toList with
  | [] =>
      ""
  | first :: rest =>
      String.ofList (Text.upperCase first ++ rest.flatMap Text.lowerCase)

example : label "userAccounts" = "Useraccounts" := by decide +kernel

end SelectCypher.Cypher
