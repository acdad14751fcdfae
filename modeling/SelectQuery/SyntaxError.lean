import SelectQuery.Token

/-!
# Syntax errors

Reading stops at the first token that does not fit. The error tells what would have fitted there and
which token was found.
-/

namespace SelectQuery

/-- What would have fitted at the place of an error. Reading has seven messages, one for each of the places
where `select_phase` and `from_phase` stop. -/
inductive Expectation where
  /-- A statement starts with its first keyword. -/
  | selectKeyword
  /-- A column, or the end of the column list. -/
  | columnName
  /-- After a name in the column list: a dot, or a separator. -/
  | dotAfterName
  | columnNameAfterDot
  /-- After a column with its table: a separator. -/
  | commaAfterQualified
  /-- A table, or the end of the table list. -/
  | tableName
  /-- After a table: a separator. -/
  | commaAfterTable
  /-- A wording of the caller's own. -/
  | custom (text : String)
  deriving DecidableEq

def Expectation.text : Expectation → String
  | .selectKeyword => "expected SELECT"
  | .columnName => "expected column name"
  | .dotAfterName => "expected '.' after name"
  | .columnNameAfterDot => "expected column name after '.'"
  | .commaAfterQualified => "expected comma after table.column"
  | .tableName => "expected table name"
  | .commaAfterTable => "expected comma"
  | .custom text => text

structure SyntaxError where
  expectation : Expectation
  found : Token
  deriving DecidableEq

/-- The error as it is reported (`Display`), given the characters that are shown as they are. -/
def SyntaxError.messageBy (shown : Char → Bool) (e : SyntaxError) : String :=
  "syntax error: " ++ e.expectation.text ++ ", found " ++ e.found.displayBy shown

def SyntaxError.message (e : SyntaxError) : String := e.messageBy Text.Diagnostic.isVisible

end SelectQuery
