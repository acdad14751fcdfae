import SelectQuery.Text.Uppercase

/-!
# Keywords

The three words that open the clauses of a query. A keyword is recognised without regard to case:
the text is one if its upper-case form is the spelling of one (`Keyword.ofText?`, for the lookup `get`).
-/

namespace SelectQuery

/-- The keyword that opens each clause of a query. -/
inductive Keyword where
  | select
  | from
  | where
  deriving DecidableEq

namespace Keyword

/-- The spelling in capital letters (`as_str`), which is also the key of the keyword in the table of `get`. -/
def spelling : Keyword → String
  | .select => "SELECT"
  | .from => "FROM"
  | .where => "WHERE"

def all : List Keyword := [.select, .from, .where]

/-- The keyword that a text spells, in any case. -/
def ofText? (text : String) : Option Keyword :=
  let capitals := Text.uppercase text
  all.find? fun k => k.spelling == capitals

theorem mem_all (k : Keyword) : k ∈ all := by
  cases k <;> simp [all]

theorem ofText?_eq_some_iff {text : String} {k : Keyword} :
    ofText? text = some k ↔ Text.uppercase text = k.spelling := by
  constructor
  · intro h
    have := List.find?_some h
    simpa using Eq.symm (by simpa using this)
  · intro h
    cases k <;> simp [ofText?, all, h, spelling]

end Keyword

end SelectQuery
