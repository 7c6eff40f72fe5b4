/-!
# String literals of SQL

A literal stands between single quotes, and a quote inside it is written twice.  Reading takes
the first quote that is not doubled as the end.
-/

namespace SchemaDdl.Text

/-- The inside of a literal: every single quote doubled. -/
def doubleQuotes : List Char → List Char
  | [] => []
  | c :: rest => if c = '\'' then '\'' :: '\'' :: doubleQuotes rest else c :: doubleQuotes rest

def literal (s : String) : String :=
  String.ofList ('\'' :: (doubleQuotes s.toList ++ ['\'']))

end SchemaDdl.Text
