import SelectQuery.Statement
import SelectQuery.Statement.Listing

/-!
# The entries of the two lists

A column is a name, or the name of a table, a dot and a name. A table is a name. Names are bare
words, never keywords or quoted text.

The two kinds of column differ in what may follow them. A bare name may be the last thing in the
input; a column with its table needs a comma or the keyword of the next clause behind it.

One round of the loop in `select_phase` is an entry of `Column.entries`, and one round of the loop in
`from_phase` is an entry of `Table.entries`. Each `match` in them is a function of its own here.
-/

namespace SelectQuery

/-! ## Columns -/

def Column.afterQualified (r : Reader) : Continuation :=
  match r.nextSignificant with
  | (.comma, rest) => .more rest
  | (.keyword .from _, rest) => .last (.next rest)
  | (t, _) => .last (.failed ⟨.commaAfterQualified, t⟩)

/-- What follows the dot behind the name of a table. The column is complete with its name, whatever
comes after it: `push_item` is called before the next token is looked at. -/
def Column.afterDot (table : String) (r : Reader) : Entry Column :=
  match r.nextSignificant with
  | (.word name, rest) => ⟨some ⟨some table, name⟩, Column.afterQualified rest⟩
  | (t, _) => .failed .columnNameAfterDot t

/-- What follows the first name of an entry. -/
def Column.afterName (name : String) (r : Reader) : Entry Column :=
  match r.nextSignificant with
  | (.comma, rest) => .more ⟨none, name⟩ rest
  | (.eof, _) => .last ⟨none, name⟩ .finished
  | (.keyword .from _, rest) => .last ⟨none, name⟩ (.next rest)
  | (.dot, rest) => Column.afterDot name rest
  | (t, _) => .failed .dotAfterName t

def Column.readEntry (r : Reader) : Entry Column :=
  match r.nextSignificant with
  | (.eof, _) => .none .finished
  | (.keyword .from _, rest) => .none (.next rest)
  | (.word name, rest) => Column.afterName name rest
  | (t, _) => .failed .columnName t

theorem Column.size_afterQualified_lt {r rest : Reader} (h : Column.afterQualified r = .more rest) :
    rest.size < r.size := by
  unfold Column.afterQualified at h
  split at h <;> cases h
  rename_i hr
  exact Reader.size_lt_of_nextSignificant hr nofun

theorem Column.size_afterDot_lt {table : String} {r rest : Reader}
    (h : (Column.afterDot table r).continuation = .more rest) : rest.size < r.size := by
  unfold Column.afterDot at h
  split at h
  · rename_i hr
    have hname := Reader.size_lt_of_nextSignificant hr nofun
    exact Nat.lt_trans (Column.size_afterQualified_lt h) hname
  · cases h

theorem Column.size_afterName_lt {name : String} {r rest : Reader}
    (h : (Column.afterName name r).continuation = .more rest) : rest.size < r.size := by
  unfold Column.afterName at h
  split at h <;> try cases h
  · rename_i hr
    exact Reader.size_lt_of_nextSignificant hr nofun
  · rename_i hr
    have hdot := Reader.size_lt_of_nextSignificant hr nofun
    exact Nat.lt_trans (Column.size_afterDot_lt h) hdot

theorem Column.size_readEntry_lt {r rest : Reader}
    (h : (Column.readEntry r).continuation = .more rest) : rest.size < r.size := by
  unfold Column.readEntry at h
  split at h <;> try cases h
  rename_i hr
  have hname := Reader.size_lt_of_nextSignificant hr nofun
  exact Nat.lt_trans (Column.size_afterName_lt h) hname

/-- The entries of the column list: the loop of `select_phase`, behind the first keyword. -/
def Column.entries : EntryReader Column := ⟨Column.readEntry, Column.size_readEntry_lt⟩

/-! ## Tables -/

def Table.afterName (r : Reader) : Continuation :=
  match r.nextSignificant with
  | (.eof, _) => .last .finished
  | (.keyword .where _, rest) => .last (.next rest)
  | (.comma, rest) => .more rest
  | (t, _) => .last (.failed ⟨.commaAfterTable, t⟩)

/-- A table is added to the list before the token behind it is looked at, as a column with its table is. -/
def Table.readEntry (r : Reader) : Entry String :=
  match r.nextSignificant with
  | (.eof, _) => .none .finished
  | (.keyword .where _, rest) => .none (.next rest)
  | (.word name, rest) => ⟨some name, Table.afterName rest⟩
  | (t, _) => .failed .tableName t

theorem Table.size_afterName_lt {r rest : Reader} (h : Table.afterName r = .more rest) :
    rest.size < r.size := by
  unfold Table.afterName at h
  split at h <;> cases h
  rename_i hr
  exact Reader.size_lt_of_nextSignificant hr nofun

theorem Table.size_readEntry_lt {r rest : Reader}
    (h : (Table.readEntry r).continuation = .more rest) : rest.size < r.size := by
  unfold Table.readEntry at h
  split at h <;> try cases h
  rename_i hr
  have hname := Reader.size_lt_of_nextSignificant hr nofun
  exact Nat.lt_trans (Table.size_afterName_lt h) hname

/-- The entries of the table list: the loop of `from_phase`. -/
def Table.entries : EntryReader String := ⟨Table.readEntry, Table.size_readEntry_lt⟩

end SelectQuery
