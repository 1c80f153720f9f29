/-!
# Words of the language

Words are the same in small and in large letters. Most of them have a meaning only where the grammar
asks for them, and name a table or a column anywhere else. The `reserved` ones name nothing; those
that join tables name a table or a column too, but not a column of an answer without `AS`.
-/

namespace Tabula.Sqlite

/-- A word in capitals. -/
def capitals (s : String) : String := s.map Char.toUpper

/-- Words that name nothing. -/
def reserved : List String :=
  ["ADD", "ALL", "ALTER", "AND", "AS", "AUTOINCREMENT", "BETWEEN", "CASE", "CHECK", "COLLATE",
   "COMMIT", "CONSTRAINT", "CREATE", "DEFAULT", "DEFERRABLE", "DELETE", "DISTINCT", "DROP", "ELSE",
   "ESCAPE", "EXCEPT", "EXISTS", "FOREIGN", "FROM", "GROUP", "HAVING", "IN", "INDEX", "INSERT",
   "INTERSECT", "INTO", "IS", "ISNULL", "JOIN", "LIMIT", "NOT", "NOTHING", "NOTNULL", "NULL", "ON",
   "OR", "ORDER", "PRIMARY", "REFERENCES", "RETURNING", "SELECT", "SET", "TABLE", "THEN", "TO",
   "TRANSACTION", "UNION", "UNIQUE", "UPDATE", "USING", "VALUES", "WHEN", "WHERE"]

/-- Words that say how tables are joined or searched. -/
def joining : List String :=
  ["CROSS", "FULL", "INDEXED", "INNER", "LEFT", "NATURAL", "OUTER", "RIGHT"]

/-- A word can be the name of a table or a column. -/
def isName (s : String) : Bool := capitals s ∉ reserved

/-- A word behind an expression can be the name of the column of an answer. -/
def isAlias (s : String) : Bool := isName s && capitals s ∉ joining

end Tabula.Sqlite
