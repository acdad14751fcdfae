import SelectQuery.Event
import SelectQuery.Statement.Entries

/-!
# Reading statements

A statement is read clause by clause, strictly from left to right: the column list after the first
keyword, then, if the column list ends with the next keyword, the table list, then, if that ends
with the last keyword, the condition. Reading stops at the first token that does not fit.

The column list and the table list may be empty, and blanks between their tokens do not matter. The
condition takes every token up to the end of the input. `Statement.read` reports the events on the
way; `Statement.parse` gives the result alone.

The phases of `parse` are `readColumns`, `readTables` and `readCondition`, each of which goes on with the next
one. No phase is ever entered again, so they need no loop around them.
-/

namespace SelectQuery

/-- The events of a reading in order, and what came of it. -/
structure Reading where
  events : List Event
  result : Except SyntaxError Statement

namespace Reading

def complete (s : Statement) : Reading := ⟨[.ofStatement s], .ok s⟩

def failed (e : SyntaxError) : Reading := ⟨[], .error e⟩

def after (events : List Event) (r : Reading) : Reading := { r with events := events ++ r.events }

end Reading

/-- What a token adds to a condition (the arms of `where_phase`): a space for a run of blanks, and its text
otherwise. -/
def Token.conditionText : Token → String
  | .whitespace => " "
  | t => t.literal

namespace Statement

/-- The text of a condition. The quotes around quoted text are not part of it. -/
def conditionOf (ts : List Token) : String := String.join (ts.map Token.conditionText)

/-- Reads the condition and completes the statement (`where_phase`). -/
def readCondition (columns : List Column) (tables : List String) (r : Reader) : Reading :=
  .after [.entering .where] (.complete ⟨columns, tables, conditionOf r.tokens⟩)

/-- Reads the table list and goes on with what follows it (`from_phase`). -/
def readTables (columns : List Column) (r : Reader) : Reading :=
  let listing := Table.entries.list r
  .after (.entering .from :: listing.items.map .table) <|
    match listing.ending with
    | .finished => .complete ⟨columns, listing.items, ""⟩
    | .next rest => readCondition columns listing.items rest
    | .failed e => .failed e

/-- Reads the column list and goes on with what follows it (`select_phase`, behind the first keyword). -/
def readColumns (r : Reader) : Reading :=
  let listing := Column.entries.list r
  .after (listing.items.map .column) <|
    match listing.ending with
    | .finished => .complete ⟨listing.items, [], ""⟩
    | .next rest => readTables listing.items rest
    | .failed e => .failed e

/-- Reads a whole statement (`parse`, with the first token of `select_phase`). The clause of the columns is
reported as entered before its keyword has been seen. -/
def read (r : Reader) : Reading :=
  .after [.entering .select] <|
    match r.nextSignificant with
    | (.keyword .select _, rest) => readColumns rest
    | (t, _) => .failed ⟨.selectKeyword, t⟩

/-- The statement that a text is the query of. -/
def parse (text : String) : Except SyntaxError Statement := (read (.ofString text)).result

def log (text : String) : List LogRecord := (read (.ofString text)).events.map Event.record

end Statement

end SelectQuery
