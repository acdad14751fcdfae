import SelectQuery.Json
import SelectQuery.Statement

/-!
# Statements as JSON

A statement is an object of its column list, its table list and its condition; a column is an object
of its table, which may be absent, and its name.
-/

namespace SelectQuery

def Column.toJson (c : Column) : Json :=
  .object [
    ("table", match c.table with
      | some table => .string table
      | none => .null),
    ("column", .string c.name)]

/-- A statement as JSON (`Serialize`): its fields in the order in which they are declared. -/
def Statement.toJson (s : Statement) : Json :=
  .object [
    ("columns", .array (s.columns.map Column.toJson)),
    ("tables", .array (s.tables.map Json.string)),
    ("where_clause", .string s.condition)]

end SelectQuery
