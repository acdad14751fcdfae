import SelectQuery.Keyword
import SelectQuery.Statement

/-!
# Events

What happens while a statement is read, for a log: the calls of `trace` and `debug` in `parse`, `push_item`
and `from_phase`. Each event has a level, a message and fields with names and values.
-/

namespace SelectQuery

/-- Something that happens while a statement is read. -/
inductive Event where
  /-- The reading of a clause starts. -/
  | entering (clause : Keyword)
  /-- A column is added to the statement. -/
  | column (c : Column)
  /-- A table is added to the statement. -/
  | table (name : String)
  /-- The statement is complete: the lengths of its lists, and whether it has a condition. -/
  | complete (columns tables : Nat) (hasCondition : Bool)
  deriving DecidableEq

inductive Level where
  | trace
  | debug
  deriving DecidableEq

def Level.name : Level → String
  | .trace => "TRACE"
  | .debug => "DEBUG"

inductive FieldValue where
  | text (s : String)
  | count (n : Nat)
  | flag (b : Bool)
  deriving DecidableEq

/-- What is logged of an event. -/
structure LogRecord where
  level : Level
  message : String
  fields : List (String × FieldValue)
  deriving DecidableEq

/-- The name of the clause that a keyword opens, as `Phase` is shown in the log. -/
def Keyword.clauseName : Keyword → String
  | .select => "Select"
  | .from => "From"
  | .where => "Where"

namespace Event

/-- Only the completion of a statement is worth more than a trace. -/
def level : Event → Level
  | .complete _ _ _ => .debug
  | _ => .trace

def message : Event → String
  | .entering _ => "entering phase"
  | .column _ => "select item"
  | .table _ => "from table"
  | .complete _ _ _ => "parsed select statement"

def fields : Event → List (String × FieldValue)
  | .entering clause => [("phase", .text clause.clauseName)]
  | .column c => [("item", .text c.render)]
  | .table name => [("table", .text name)]
  | .complete columns tables hasCondition =>
    [("columns", .count columns), ("tables", .count tables), ("has_where", .flag hasCondition)]

def record (e : Event) : LogRecord := ⟨e.level, e.message, e.fields⟩

def ofStatement (s : Statement) : Event :=
  .complete s.columns.length s.tables.length (s.condition != "")

end Event

end SelectQuery
