import SelectQuery.Statement.Read

/-!
# Reading a statement again

A statement that was read can be written in its canonical form, and that form can be read in turn.
Most statements come back unchanged, but not all: the canonical form drops a condition without
tables, and the names in a statement that was put together by hand may be no names in a query.
-/

namespace SelectQuery

/-- What comes of reading the canonical form of a statement. -/
def Statement.reread (s : Statement) : Except SyntaxError Statement := Statement.parse s.render

/-- A statement, and what comes of reading its canonical form. -/
structure RoundTrip where
  first : Statement
  second : Except SyntaxError Statement

namespace RoundTrip

/-- Reads a text, and then the canonical form of what was read. -/
def ofText (text : String) : Except SyntaxError RoundTrip :=
  (Statement.parse text).map fun s => ⟨s, s.reread⟩

/-- Did the second reading give the statement of the first? -/
def isStable (t : RoundTrip) : Bool :=
  match t.second with
  | .ok s => s == t.first
  | .error _ => false

end RoundTrip

end SelectQuery
