/-!
# Select statements

A statement names columns, tables and a condition. The lists keep their order and their repetitions.
The condition is kept as text, the blank after its keyword included, so that its text follows the
keyword directly when the statement is written (`Statement.render`).
-/

namespace SelectQuery

/-- A column, either of a table that it names or by itself (`SelectItem`). -/
structure Column where
  table : Option String
  name : String
  deriving DecidableEq

/-- The column as it is written in a query (`Display`). -/
def Column.render (c : Column) : String :=
  match c.table with
  | some table => table ++ "." ++ c.name
  | none => c.name

/-- A query for some columns of some tables (`SelectStatement`). A query without a condition has the empty
text for it (`where_clause`). -/
structure Statement where
  columns : List Column
  tables : List String
  condition : String
  deriving DecidableEq

namespace Statement

/-- The clause that names the tables, and the condition after it. -/
def renderSource (s : Statement) : String :=
  " FROM " ++ ",".intercalate s.tables ++
    if s.condition = "" then "" else " WHERE" ++ s.condition

/-- The canonical text of a statement (`Display`). A condition without tables has no place in it. -/
def render (s : Statement) : String :=
  "SELECT " ++ ",".intercalate (s.columns.map Column.render) ++
    if s.tables = [] then "" else s.renderSource

end Statement

end SelectQuery
