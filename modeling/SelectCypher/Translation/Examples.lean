import SelectCypher.Translation.Basic

namespace SelectCypher

/-!
# Example translations

Queries with their translations, one for each feature of the language.
-/

/-- A query, its translation, and what the pair shows. -/
structure Example where
  query : String
  cypher : String
  description : String
  deriving Repr, DecidableEq

/-- The example translations. -/
def examples : List Example :=
  [{ query := "SELECT * FROM Users"
     cypher := "MATCH (n:Users)\nRETURN n"
     description := "Select every column" },
   { query := "SELECT name, email FROM Users"
     cypher := "MATCH (n:Users)\nRETURN n.name, n.email"
     description := "Select specific columns" },
   { query := "SELECT name FROM Users WHERE age > 18"
     cypher := "MATCH (n:Users)\nWHERE n.age > 18\nRETURN n.name"
     description := "Filter with a comparison" },
   { query := "SELECT * FROM Users WHERE active = true AND role = 'admin'"
     cypher :=
       "MATCH (n:Users)\nWHERE (n.active = true AND n.role = 'admin')\nRETURN n"
     description := "Filter with AND" },
   { query := "SELECT name FROM Users WHERE age < 18 OR status = 'guest'"
     cypher :=
       "MATCH (n:Users)\nWHERE (n.age < 18 OR n.status = 'guest')\nRETURN n.name"
     description := "Filter with OR" }]

end SelectCypher
