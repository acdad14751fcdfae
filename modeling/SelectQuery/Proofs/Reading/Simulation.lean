import SelectQuery.Proofs.Reading.Progress

/-!
# Reading entries and reading tokens come to the same

`Statement.read` reads both lists entry by entry, looking at the tokens that it needs. Here each way to
read a part of an entry is compared with the progress over the tokens that are left (`Agrees`), the
loop over entries follows by induction on their number (`EntryReader.Agrees.list`), and in the end the
whole reading, events included, is the progress over all tokens (`Statement.read_eq`).
-/

namespace SelectQuery

/-! ## One token -/

section
variable {r rest : Reader} {t : Token} {cs : List Column} {ts : List String} {place : Place}

theorem Progress.runFrom_of_eof (h : r.nextSignificant = (.eof, rest)) :
    (lists cs ts place).runFrom false r.tokens = lists cs ts place := by
  unfold Reader.nextSignificant at h
  split at h
  · rename_i r' hr
    have hr' : r'.tokens = [] := Reader.tokens_of_eof (by rw [h])
    rw [Reader.tokens_of_next (by simp [hr]), hr, hr']
    rfl
  · rw [Reader.tokens_of_eof (by rw [h])]
    rfl

theorem Progress.runFrom_of_next (h : r.nextSignificant = (t, rest)) (ht : t ≠ .eof) :
    (lists cs ts place).runFrom false r.tokens =
      ((lists cs ts place).accept t).runFrom false rest.tokens := by
  unfold Reader.nextSignificant at h
  split at h
  · rename_i r' hr
    have hr' : r'.tokens = t :: rest.tokens := by
      rw [Reader.tokens_of_next (by simpa [h] using ht), h]
    rw [Reader.tokens_of_next (by simp [hr]), hr, hr']
    simp [runFrom, skips]
  · rename_i hblank
    have hws : t ≠ .whitespace := by
      rintro rfl
      exact hblank rest h
    rw [Reader.tokens_of_next (by simpa [h] using ht), h, runFrom]
    simp [skips, hws]

end

/-! ## One list -/

/-- A list of a query, seen in the progress: how its items and a place in it show, the place in front
of an item, and what follows the list. -/
structure ListView (α : Type) where
  lists : List α → List Column × List String
  first : Place
  next : List Column → List String → Progress

namespace ListView

variable {α : Type}

/-- Some items have been read, and the list up to a place behind them. -/
def upTo (v : ListView α) (items : List α) (place : Place) : Progress :=
  .lists (v.lists items).1 (v.lists items).2 place

/-- The column list, before any table is read. -/
def columns : ListView Column := ⟨fun cs => (cs, []), .column, fun cs ts => .lists cs ts .table⟩

/-- The table list behind some columns. -/
def tables (cs : List Column) : ListView String :=
  ⟨fun ts => (cs, ts), .table, fun cs ts => .condition cs ts ""⟩

end ListView

section
variable {α : Type}

/-- The progress `p` comes to the items and to the ending of a list. -/
def Ending.Agrees (v : ListView α) (p : Progress) (items : List α) : Ending → Prop
  | .finished => p.close = v.upTo items v.first
  | .next rest =>
    p = (v.next (v.lists items).1 (v.lists items).2).runFrom false rest.tokens
  | .failed e => ∃ place found, place.clause = v.first.clause ∧ e = ⟨place.expectation, found⟩ ∧
    p.close = .failed (v.lists items).1 (v.lists items).2 place found

/-- The progress `p` comes to the items of a list and to what stands behind them. -/
def Continuation.Agrees (v : ListView α) (p : Progress) (items : List α) : Continuation → Prop
  | .more rest => p = (v.upTo items v.first).runFrom false rest.tokens
  | .last ending => ending.Agrees v p items

/-- The progress `p` comes to the items of a list and an entry behind them. -/
def Entry.Agrees (v : ListView α) (p : Progress) (items : List α) (e : Entry α) : Prop :=
  e.continuation.Agrees v p (items ++ e.item?.toList)

/-- An entry is what the progress comes to in front of an item. -/
def EntryReader.Agrees (v : ListView α) (p : EntryReader α) : Prop :=
  ∀ items r, (p.read r).Agrees v ((v.upTo items v.first).runFrom false r.tokens) items

/-- **A list is what the progress comes to**, if each entry is. -/
theorem EntryReader.Agrees.list {v : ListView α} {p : EntryReader α} (h : p.Agrees v)
    (items : List α) (r : Reader) :
    (p.list r).ending.Agrees v ((v.upTo items v.first).runFrom false r.tokens)
      (items ++ (p.list r).items) := by
  induction hn : r.size using Nat.strongRecOn generalizing items r with
  | _ n ih =>
    have hentry := h items r
    unfold Entry.Agrees at hentry
    cases hc : (p.read r).continuation with
    | more rest =>
      rw [hc] at hentry
      have hrest := ih rest.size (hn ▸ p.size_lt hc) (items ++ (p.read r).item?.toList) rest rfl
      rw [EntryReader.list_of_more hc, hentry, ← List.append_assoc]
      exact hrest
    | last ending =>
      rw [hc] at hentry
      rw [EntryReader.list_of_last hc]
      exact hentry

theorem Ending.agrees_failed {v : ListView α} {r rest : Reader} {t : Token} (place : Place)
    (items : List α) (hr : r.nextSignificant = (t, rest))
    (hplace : place.clause = v.first.clause)
    (hclose : (v.upTo items place).close =
      .failed (v.lists items).1 (v.lists items).2 place .eof ∨ t ≠ .eof)
    (hfail : (v.upTo items place).accept t =
      .failed (v.lists items).1 (v.lists items).2 place t) :
    (Ending.failed ⟨place.expectation, t⟩).Agrees v
      ((v.upTo items place).runFrom false r.tokens) items := by
  refine ⟨place, t, hplace, rfl, ?_⟩
  by_cases ht : t = .eof
  · subst ht
    rw [ListView.upTo, Progress.runFrom_of_eof hr]
    simpa [ListView.upTo] using hclose
  · rw [ListView.upTo, Progress.runFrom_of_next hr ht]
    rw [ListView.upTo] at hfail
    rw [hfail, Progress.runFrom_failed]
    rfl

end

theorem Entry.agrees_none {α : Type} {v : ListView α} {p : Progress} {items : List α} {ending : Ending}
    (h : ending.Agrees v p items) : (Entry.none ending).Agrees v p items := by
  simpa [Entry.Agrees, Entry.none, Continuation.Agrees] using h

theorem Entry.agrees_finished {α : Type} {v : ListView α} {r rest : Reader} (items : List α)
    (hr : r.nextSignificant = (.eof, rest))
    (hclose : (v.upTo items v.first).close = v.upTo items v.first) :
    (Entry.none .finished).Agrees v ((v.upTo items v.first).runFrom false r.tokens) items := by
  apply Entry.agrees_none
  rw [ListView.upTo, Progress.runFrom_of_eof hr]
  exact hclose

theorem Entry.agrees_next {α : Type} {v : ListView α} {r rest : Reader} {t : Token} (items : List α)
    (hr : r.nextSignificant = (t, rest)) (ht : t ≠ .eof)
    (hnext : (v.upTo items v.first).accept t = v.next (v.lists items).1 (v.lists items).2) :
    (Entry.none (.next rest)).Agrees v ((v.upTo items v.first).runFrom false r.tokens) items := by
  apply Entry.agrees_none
  rw [ListView.upTo, Progress.runFrom_of_next hr ht]
  exact congrArg (Progress.runFrom false · rest.tokens) hnext

theorem Entry.agrees_failed {α : Type} {v : ListView α} {r rest : Reader} {t : Token}
    (place : Place) (items : List α) (hr : r.nextSignificant = (t, rest))
    (hplace : place.clause = v.first.clause)
    (hclose : (v.upTo items place).close =
      .failed (v.lists items).1 (v.lists items).2 place .eof ∨ t ≠ .eof)
    (hfail : (v.upTo items place).accept t =
      .failed (v.lists items).1 (v.lists items).2 place t) :
    (Entry.failed place.expectation t).Agrees v
      ((v.upTo items place).runFrom false r.tokens) items := by
  exact Entry.agrees_none (Ending.agrees_failed place items hr hplace hclose hfail)

/-! ## Columns -/

section
variable (items : List Column) (r : Reader)

-- Each part of an entry looks at one token. With the token known by its kind, both sides compute.

theorem Column.afterQualified_agrees :
    (Column.afterQualified r).Agrees .columns
      ((ListView.columns.upTo items .afterQualified).runFrom false r.tokens) items := by
  obtain ⟨t, rest, hr⟩ : ∃ t rest, r.nextSignificant = (t, rest) := ⟨_, _, rfl⟩
  rw [Column.afterQualified, hr]
  cases t with
  | comma => exact Progress.runFrom_of_next hr nofun
  | keyword k written =>
    cases k with
    | «from» => exact Progress.runFrom_of_next hr nofun
    | _ => exact Ending.agrees_failed .afterQualified items hr rfl (.inl rfl) rfl
  | _ => exact Ending.agrees_failed .afterQualified items hr rfl (.inl rfl) rfl

theorem Column.afterDot_agrees (table : String) :
    (Column.afterDot table r).Agrees .columns
      ((ListView.columns.upTo items (.afterDot table)).runFrom false r.tokens) items := by
  obtain ⟨t, rest, hr⟩ : ∃ t rest, r.nextSignificant = (t, rest) := ⟨_, _, rfl⟩
  rw [Column.afterDot, hr]
  cases t with
  | word name =>
    rw [ListView.upTo, Progress.runFrom_of_next hr nofun]
    exact Column.afterQualified_agrees (items ++ [⟨some table, name⟩]) rest
  | _ => exact Entry.agrees_failed (.afterDot table) items hr rfl (.inl rfl) rfl

theorem Column.afterName_agrees (name : String) :
    (Column.afterName name r).Agrees .columns
      ((ListView.columns.upTo items (.afterName name)).runFrom false r.tokens) items := by
  obtain ⟨t, rest, hr⟩ : ∃ t rest, r.nextSignificant = (t, rest) := ⟨_, _, rfl⟩
  rw [Column.afterName, hr]
  cases t with
  | comma => exact Progress.runFrom_of_next hr nofun
  | eof =>
    rw [ListView.upTo, Progress.runFrom_of_eof hr]
    rfl
  | dot =>
    rw [ListView.upTo, Progress.runFrom_of_next hr nofun]
    exact Column.afterDot_agrees items rest name
  | keyword k written =>
    cases k with
    | «from» => exact Progress.runFrom_of_next hr nofun
    | _ => exact Entry.agrees_failed (.afterName name) items hr rfl (.inr nofun) rfl
  | _ => exact Entry.agrees_failed (.afterName name) items hr rfl (.inr nofun) rfl

/-- **An entry of the column list** is what the progress comes to in front of a column. -/
theorem Column.entries_agrees : Column.entries.Agrees .columns := by
  intro items r
  change (Column.readEntry r).Agrees _ _ _
  obtain ⟨t, rest, hr⟩ : ∃ t rest, r.nextSignificant = (t, rest) := ⟨_, _, rfl⟩
  rw [Column.readEntry, hr]
  cases t with
  | eof => exact Entry.agrees_finished items hr rfl
  | word name =>
    rw [ListView.upTo, ListView.columns, Progress.runFrom_of_next hr nofun]
    exact Column.afterName_agrees items rest name
  | keyword k written =>
    cases k with
    | «from» => exact Entry.agrees_next items hr nofun rfl
    | _ => exact Entry.agrees_failed .column items hr rfl (.inr nofun) rfl
  | _ => exact Entry.agrees_failed .column items hr rfl (.inr nofun) rfl

end

/-! ## Tables -/

section
variable (cs : List Column) (items : List String) (r : Reader)

theorem Table.afterName_agrees :
    (Table.afterName r).Agrees (.tables cs)
      (((ListView.tables cs).upTo items .afterTable).runFrom false r.tokens) items := by
  obtain ⟨t, rest, hr⟩ : ∃ t rest, r.nextSignificant = (t, rest) := ⟨_, _, rfl⟩
  rw [Table.afterName, hr]
  cases t with
  | eof =>
    rw [ListView.upTo, Progress.runFrom_of_eof hr]
    rfl
  | comma => exact Progress.runFrom_of_next hr nofun
  | keyword k written =>
    cases k with
    | «where» => exact Progress.runFrom_of_next hr nofun
    | _ => exact Ending.agrees_failed .afterTable items hr rfl (.inr nofun) rfl
  | _ => exact Ending.agrees_failed .afterTable items hr rfl (.inr nofun) rfl

/-- **An entry of the table list** is what the progress comes to in front of a table. -/
theorem Table.entries_agrees : Table.entries.Agrees (.tables cs) := by
  intro items r
  change (Table.readEntry r).Agrees _ _ _
  obtain ⟨t, rest, hr⟩ : ∃ t rest, r.nextSignificant = (t, rest) := ⟨_, _, rfl⟩
  rw [Table.readEntry, hr]
  cases t with
  | eof => exact Entry.agrees_finished items hr rfl
  | word name =>
    rw [ListView.upTo, ListView.tables, Progress.runFrom_of_next hr nofun]
    exact Table.afterName_agrees cs (items ++ [name]) rest
  | keyword k written =>
    cases k with
    | «where» => exact Entry.agrees_next items hr nofun rfl
    | _ => exact Entry.agrees_failed .table items hr rfl (.inr nofun) rfl
  | _ => exact Entry.agrees_failed .table items hr rfl (.inr nofun) rfl

end

/-! ## Statements -/

theorem Reading.after_after (xs ys : List Event) (r : Reading) :
    Reading.after xs (Reading.after ys r) = Reading.after (xs ++ ys) r := by
  simp [Reading.after]

theorem Progress.reading_of_close {p q : Progress} (h : p.close = q) :
    p.reading = .after q.events (.ofResult q.result) := by
  rw [reading, outcome, h]

namespace Statement

theorem readTables_eq (cs : List Column) (r : Reader) :
    .after (.entering .select :: cs.map .column) (readTables cs r) =
      ((Progress.lists cs [] .table).runFrom false r.tokens).reading := by
  have h : (Table.entries.list r).ending.Agrees (.tables cs)
      ((Progress.lists cs [] .table).runFrom false r.tokens) (Table.entries.list r).items :=
    (Table.entries_agrees cs).list [] r
  unfold readTables
  generalize (Progress.lists cs [] .table).runFrom false r.tokens = p at h ⊢
  generalize Table.entries.list r = listing at h ⊢
  obtain ⟨items, ending⟩ := listing
  cases ending with
  | finished =>
    change p.close = .lists cs items .table at h
    rw [Progress.reading_of_close h, Reading.after_after]
    simp [Progress.events, Progress.result, Place.clause, Reading.ofResult]
  | next rest =>
    change p = (Progress.condition cs items "").runFrom false rest.tokens at h
    rw [Progress.runFrom_condition, String.empty_append] at h
    rw [Progress.reading_of_close (congrArg Progress.close h), Reading.after_after]
    simp [readCondition, Reading.after_after, Progress.close, Progress.events, Progress.result,
      Reading.ofResult]
  | failed e =>
    obtain ⟨place, found, hclause, rfl, hclose⟩ := h
    change place.clause = .from at hclause
    rw [Progress.reading_of_close hclose, Reading.after_after]
    simp [Progress.events, Progress.result, hclause, Reading.ofResult, ListView.tables]

theorem readColumns_eq (r : Reader) :
    .after [.entering .select] (readColumns r) =
      ((Progress.lists [] [] .column).runFrom false r.tokens).reading := by
  have h : (Column.entries.list r).ending.Agrees .columns
      ((Progress.lists [] [] .column).runFrom false r.tokens) (Column.entries.list r).items :=
    Column.entries_agrees.list [] r
  unfold readColumns
  generalize (Progress.lists [] [] .column).runFrom false r.tokens = p at h ⊢
  generalize Column.entries.list r = listing at h ⊢
  obtain ⟨items, ending⟩ := listing
  cases ending with
  | finished =>
    change p.close = .lists items [] .column at h
    rw [Progress.reading_of_close h, Reading.after_after]
    simp [Progress.events, Progress.result, Place.clause, Reading.ofResult]
  | next rest =>
    change p = (Progress.lists items [] .table).runFrom false rest.tokens at h
    rw [h, ← readTables_eq, Reading.after_after]
    rfl
  | failed e =>
    obtain ⟨place, found, hclause, rfl, hclose⟩ := h
    change place.clause = .select at hclause
    rw [Progress.reading_of_close hclose, Reading.after_after]
    simp [Progress.events, Progress.result, hclause, Reading.ofResult, ListView.columns]

/-- **Reading is the progress over all tokens**, for every reader: its events and what comes of it. -/
theorem read_eq (r : Reader) : read r = (Progress.initial.runFrom false r.tokens).reading := by
  have hfailed : ∀ {t rest}, r.nextSignificant = (t, rest) → t ≠ .eof →
      Progress.initial.accept t = .failed [] [] .start t →
      Reading.after [.entering .select] (.failed ⟨.selectKeyword, t⟩) =
        (Progress.initial.runFrom false r.tokens).reading := by
    intro t rest hr ht hfail
    rw [Progress.initial] at hfail ⊢
    rw [Progress.runFrom_of_next hr ht, hfail, Progress.runFrom_failed]
    rfl
  obtain ⟨t, rest, hr⟩ : ∃ t rest, r.nextSignificant = (t, rest) := ⟨_, _, rfl⟩
  rw [read, hr]
  cases t with
  | eof =>
    rw [Progress.initial, Progress.runFrom_of_eof hr]
    rfl
  | keyword k written =>
    cases k with
    | select =>
      rw [Progress.initial, Progress.runFrom_of_next hr nofun]
      exact readColumns_eq rest
    | _ => exact hfailed hr nofun rfl
  | _ => exact hfailed hr nofun rfl

/-- **Reading a text** is the progress over the tokens that it is cut into, without the blanks. -/
theorem read_ofString (text : String) :
    read (.ofString text) = (Progress.initial.run (Token.scan text)).reading := by
  have htokens : (Reader.ofString text).tokens = Token.scan text := by
    rw [Reader.ofString, Reader.tokens_of_empty, Lexer.tokens_ofString, List.takeWhile_eq_self_iff]
    exact fun t ht => by simpa using Token.ne_eof_of_mem_scanChars ht
  have hthin : Token.Thin (Token.scan text) := Token.thin_scanChars _
  rw [read_eq, htokens, Progress.runFrom_eq_run hthin]

theorem parse_eq (text : String) :
    parse text = (Progress.initial.run (Token.scan text)).outcome := by
  rw [parse, read_ofString, Progress.result_reading]

end Statement

end SelectQuery
