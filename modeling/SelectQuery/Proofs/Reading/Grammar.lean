import SelectQuery.Proofs.Reading.Simulation

/-!
# The grammar of queries

Which token sequences are queries, and of which statements, told without reading them: two lists with
commas between their entries, each behind its keyword, and any tokens behind the third keyword
(`Query`). Reading accepts just these sequences and gives just these statements
(`Progress.outcome_eq_ok_iff`).

From left to right, each step of the reading keeps the account of what the tokens so far are made of
(`Progress.Reads`). The other way round, the progress over a sequence of the grammar is computed list
by list.
-/

namespace SelectQuery

namespace Token

def significant (ts : List Token) : List Token := ts.filter (· ≠ .whitespace)

theorem significant_cons_whitespace (ts : List Token) :
    significant (.whitespace :: ts) = significant ts := by
  simp [significant]

theorem significant_cons {t : Token} (h : t ≠ .whitespace) (ts : List Token) :
    significant (t :: ts) = t :: significant ts := by
  simp [significant, h]

theorem significant_append (ts us : List Token) :
    significant (ts ++ us) = significant ts ++ significant us := by
  simp [significant]

theorem significant_concat_whitespace (ts : List Token) :
    significant (ts ++ [.whitespace]) = significant ts := by
  simp [significant]

theorem significant_concat {t : Token} (h : t ≠ .whitespace) (ts : List Token) :
    significant (ts ++ [t]) = significant ts ++ [t] := by
  simp [significant, h]

/-- What tokens are as text: a space for each run of blanks, and the literal of every other token. -/
def clauseText (ts : List Token) : String :=
  String.join (ts.map fun t => if t = .whitespace then " " else t.literal)

theorem conditionOf_eq_clauseText (ts : List Token) : Statement.conditionOf ts = clauseText ts := by
  have h : ∀ t : Token, t.conditionText = if t = .whitespace then " " else t.literal := by
    intro t
    cases t <;> rfl
  rw [Statement.conditionOf, clauseText]
  congr 1
  exact List.map_congr_left fun t _ => h t

end Token

/-! ## The grammar -/

/-- The tokens of a column: its name, or the name of a table, a dot and its name. -/
def Column.tokens (c : Column) : List Token :=
  match c.table with
  | some table => [.word table, .dot, .word c.name]
  | none => [.word c.name]

def Table.tokens (name : String) : List Token := [.word name]

/-- The tokens of a list whose entries have the tokens `es`: one comma between neighbours, and perhaps
one more behind the last entry, as the flag tells. -/
inductive Separated : List (List Token) → Bool → List Token → Prop
  | plain (es : List (List Token)) : Separated es false ([.comma].intercalate es)
  | trailing {es : List (List Token)} (h : es ≠ []) :
      Separated es true ([.comma].intercalate es ++ [.comma])

/-- The first keyword and a list of columns. -/
inductive SelectPart : List Column → Bool → List Token → Prop
  | mk {cs : List Column} {trailing : Bool} {ts : List Token} (written : String)
      (h : Separated (cs.map Column.tokens) trailing ts) :
      SelectPart cs trailing (.keyword .select written :: ts)

/-- The first two keywords, each with its list. -/
inductive SourcePart : List Column → List String → List Token → Prop
  | mk {cs : List Column} {tables : List String} {trailing trailing' : Bool} {ts us : List Token}
      (written : String) (hcs : SelectPart cs trailing ts)
      (htables : Separated (tables.map Table.tokens) trailing' us) :
      SourcePart cs tables (ts ++ .keyword .from written :: us)

/-- Is the last column one with its table? -/
def endsQualified (cs : List Column) : Bool := cs.getLast?.any (·.table.isSome)

/-- The tokens are a query of the statement. Blanks count in the condition only. -/
inductive Query : List Token → Statement → Prop
  /-- Without a second keyword, a column with its table needs a comma behind it. -/
  | select {ts : List Token} {cs : List Column} {trailing : Bool}
      (h : SelectPart cs trailing (Token.significant ts))
      (hlast : endsQualified cs = true → trailing = true) : Query ts ⟨cs, [], ""⟩
  | source {ts : List Token} {cs : List Column} {tables : List String}
      (h : SourcePart cs tables (Token.significant ts)) : Query ts ⟨cs, tables, ""⟩
  | condition {ts rest : List Token} {cs : List Column} {tables : List String} (written : String)
      (h : SourcePart cs tables (Token.significant ts)) :
      Query (ts ++ .keyword .where written :: rest) ⟨cs, tables, Token.clauseText rest⟩

/-! ## Lists with commas -/

section
variable {α : Type} (f : α → List Token) (xs : List α) (x : α)

def listed : List Token := xs.flatMap fun x => f x ++ [.comma]

theorem listed_cons : listed f (x :: xs) = f x ++ [.comma] ++ listed f xs := rfl

theorem listed_concat : listed f (xs ++ [x]) = listed f xs ++ f x ++ [.comma] := by
  simp [listed]

theorem intercalate_concat :
    [Token.comma].intercalate ((xs ++ [x]).map f) = listed f xs ++ f x := by
  induction xs with
  | nil => simp [listed]
  | cons y xs ih =>
    rw [List.cons_append, List.map_cons, List.intercalate_cons_of_ne_nil (by simp), ih, listed_cons]
    simp

/-- In front of a further entry, or of the end, every entry has its comma. -/
theorem separated_listed : ∃ trailing, Separated (xs.map f) trailing (listed f xs) ∧
    (xs ≠ [] → trailing = true) := by
  obtain rfl | ⟨xs, x, rfl⟩ := xs.eq_nil_or_concat
  · exact ⟨false, .plain [], by simp⟩
  · rw [List.concat_eq_append, listed_concat, ← intercalate_concat]
    exact ⟨true, .trailing (by simp), fun _ => rfl⟩

theorem separated_concat : Separated ((xs ++ [x]).map f) false (listed f xs ++ f x) := by
  rw [← intercalate_concat]
  exact .plain _

end

/-- The entries of a list all have their commas, or all but the last. -/
theorem Separated.cases_last {α : Type} {f : α → List Token} {xs : List α} {trailing : Bool}
    {ts : List Token} (h : Separated (xs.map f) trailing ts) :
    ts = listed f xs ∧ (xs ≠ [] → trailing = true) ∨
      ∃ ys y, xs = ys ++ [y] ∧ trailing = false ∧ ts = listed f ys ++ f y := by
  obtain rfl | ⟨xs, x, rfl⟩ := xs.eq_nil_or_concat
  · rw [List.map_nil] at h
    cases h with
    | plain => exact .inl ⟨rfl, by simp⟩
    | trailing hne => exact absurd rfl hne
  · rw [List.concat_eq_append] at h ⊢
    generalize hes : (xs ++ [x]).map f = es at h
    cases h with
    | plain =>
      subst hes
      exact .inr ⟨xs, x, rfl, rfl, intercalate_concat f xs x⟩
    | trailing _ =>
      subst hes
      exact .inl ⟨by rw [intercalate_concat, listed_concat], fun _ => rfl⟩

/-- The tokens of an entry are words and dots, and the last one is a word. -/
structure IsEntry (ts : List Token) : Prop where
  plain : ∀ t ∈ ts, t = .dot ∨ ∃ name, t = .word name
  last : ∃ name, .word name ∈ ts.getLast?

theorem isEntry_column (c : Column) : IsEntry c.tokens := by
  obtain ⟨_ | table, name⟩ := c
  · exact ⟨by simp [Column.tokens], name, rfl⟩
  · exact ⟨by simp [Column.tokens], name, rfl⟩

theorem isEntry_table (name : String) : IsEntry (Table.tokens name) :=
  ⟨by simp [Table.tokens], name, rfl⟩

section
variable {α : Type} {f : α → List Token} {xs : List α} {trailing : Bool} {ts : List Token} {t : Token}

theorem cases_of_mem_listed (hf : ∀ x, IsEntry (f x)) (ht : t ∈ listed f xs) :
    t = .comma ∨ t = .dot ∨ ∃ name, t = .word name := by
  obtain ⟨x, -, ht⟩ := List.mem_flatMap.1 ht
  rcases List.mem_append.1 ht with ht | ht
  · exact .inr ((hf x).plain t ht)
  · exact .inl (List.mem_singleton.1 ht)

theorem Separated.cases_of_mem (h : Separated (xs.map f) trailing ts) (hf : ∀ x, IsEntry (f x))
    (ht : t ∈ ts) : t = .comma ∨ t = .dot ∨ ∃ name, t = .word name := by
  obtain ⟨rfl, -⟩ | ⟨ys, y, -, -, rfl⟩ := h.cases_last
  · exact cases_of_mem_listed hf ht
  · rcases List.mem_append.1 ht with ht | ht
    · exact cases_of_mem_listed hf ht
    · exact .inr ((hf y).plain t ht)

theorem Separated.significant_eq (h : Separated (xs.map f) trailing ts) (hf : ∀ x, IsEntry (f x)) :
    Token.significant ts = ts := by
  refine List.filter_eq_self.2 fun t ht => ?_
  rcases h.cases_of_mem hf ht with rfl | rfl | ⟨name, rfl⟩ <;> rfl

end

/-! ## What the tokens so far are made of -/

namespace Progress

/-- The account of the tokens that have been read. -/
def Reads : Progress → List Token → Prop
  | .lists cs tables .start, ts => cs = [] ∧ tables = [] ∧ Token.significant ts = []
  | .lists cs tables .column, ts => tables = [] ∧ ∃ written,
      Token.significant ts = .keyword .select written :: listed Column.tokens cs
  | .lists cs tables (.afterName name), ts => tables = [] ∧ ∃ written,
      Token.significant ts =
        .keyword .select written :: (listed Column.tokens cs ++ [.word name])
  | .lists cs tables (.afterDot table), ts => tables = [] ∧ ∃ written,
      Token.significant ts =
        .keyword .select written :: (listed Column.tokens cs ++ [.word table, .dot])
  | .lists cs tables .afterQualified, ts => tables = [] ∧ ∃ written cs' table name,
      cs = cs' ++ [⟨some table, name⟩] ∧ Token.significant ts =
        .keyword .select written ::
          (listed Column.tokens cs' ++ [.word table, .dot, .word name])
  | .lists cs tables .table, ts => ∃ trailing us written, SelectPart cs trailing us ∧
      Token.significant ts = us ++ .keyword .from written :: listed Table.tokens tables
  | .lists cs tables .afterTable, ts => ∃ trailing us written tables' table,
      tables = tables' ++ [table] ∧ SelectPart cs trailing us ∧
      Token.significant ts =
        us ++ .keyword .from written :: (listed Table.tokens tables' ++ [.word table])
  | .condition cs tables text, ts => ∃ us written rest, ts = us ++ .keyword .where written :: rest ∧
      SourcePart cs tables (Token.significant us) ∧ text = Token.clauseText rest
  | .failed _ _ _ _, _ => True

variable {p : Progress} {cs : List Column} {tables : List String} {ts us : List Token} {t : Token}

theorem Reads.congr {place : Place} (h : (lists cs tables place).Reads ts)
    (hts : Token.significant us = Token.significant ts) : (lists cs tables place).Reads us := by
  cases place <;> simpa only [Reads, hts] using h

theorem Reads.from {trailing : Bool} {written : String} (h : SelectPart cs trailing us)
    (hts : Token.significant ts = us ++ [.keyword .from written]) :
    (lists cs [] .table).Reads ts :=
  ⟨trailing, us, written, h, by simp [hts, listed]⟩

theorem Reads.where {trailing trailing' : Bool} {written written' : String}
    (hcs : SelectPart cs trailing us) {vs : List Token}
    (htables : Separated (tables.map Table.tokens) trailing' vs)
    (hts : Token.significant ts = us ++ .keyword .from written :: vs) :
    (condition cs tables "").Reads (ts ++ [.keyword .where written']) :=
  ⟨ts, written', [], rfl, hts ▸ .mk written hcs htables, rfl⟩

/-- **Each token that is read enters the account.** -/
theorem Reads.accept (h : p.Reads ts) : (p.accept t).Reads (ts ++ [t]) := by
  have hsig : ∀ {u : Token}, u ≠ .whitespace →
      Token.significant (ts ++ [u]) = Token.significant ts ++ [u] :=
    fun hu => Token.significant_concat hu ts
  generalize hq : p.accept t = q
  cases accept_cases hq with
  | @select cs tables written =>
    obtain ⟨rfl, rfl, hts⟩ := h
    exact ⟨rfl, written, by simp [hsig, hts, listed]⟩
  | @columnName cs tables name =>
    obtain ⟨rfl, written, hts⟩ := h
    exact ⟨rfl, written, by simp [hsig, hts]⟩
  | @columnFrom cs tables written =>
    obtain ⟨rfl, written', hts⟩ := h
    obtain ⟨trailing, hsep, _⟩ := separated_listed Column.tokens cs
    exact .from (.mk written' hsep) (by rw [hsig (by simp), hts])
  | @nameComma cs tables name =>
    obtain ⟨rfl, written, hts⟩ := h
    refine ⟨rfl, written, ?_⟩
    rw [hsig (by simp), hts, listed_concat]
    simp [Column.tokens]
  | @nameFrom cs tables name written =>
    obtain ⟨rfl, written', hts⟩ := h
    have hsep := separated_concat Column.tokens cs ⟨none, name⟩
    exact .from (.mk written' hsep) (by rw [hsig (by simp), hts]; rfl)
  | @nameDot cs tables name =>
    obtain ⟨rfl, written, hts⟩ := h
    exact ⟨rfl, written, by simp [hsig, hts]⟩
  | @qualifiedName cs tables table name =>
    obtain ⟨rfl, written, hts⟩ := h
    exact ⟨rfl, written, cs, table, name, rfl, by simp [hsig, hts]⟩
  | @qualifiedComma cs tables =>
    obtain ⟨rfl, written, cs, table, name, rfl, hts⟩ := h
    refine ⟨rfl, written, ?_⟩
    rw [hsig (by simp), hts, listed_concat]
    simp [Column.tokens]
  | @qualifiedFrom cs tables written =>
    obtain ⟨rfl, written', cs, table, name, rfl, hts⟩ := h
    have hsep := separated_concat Column.tokens cs ⟨some table, name⟩
    exact .from (.mk written' hsep) (by rw [hsig (by simp), hts]; rfl)
  | @tableName cs tables name =>
    obtain ⟨trailing, us, written, hcs, hts⟩ := h
    exact ⟨trailing, us, written, tables, name, rfl, hcs, by simp [hsig, hts]⟩
  | @tableWhere cs tables written =>
    obtain ⟨trailing, us, written', hcs, hts⟩ := h
    obtain ⟨_, hsep, _⟩ := separated_listed Table.tokens tables
    exact .where hcs hsep hts
  | @separatorComma cs tables =>
    obtain ⟨trailing, us, written, tables, table, rfl, hcs, hts⟩ := h
    refine ⟨trailing, us, written, hcs, ?_⟩
    rw [hsig (by simp), hts, listed_concat]
    simp [Table.tokens]
  | @separatorWhere cs tables written =>
    obtain ⟨trailing, us, written', tables, table, rfl, hcs, hts⟩ := h
    have hsep := separated_concat Table.tokens tables table
    exact .where hcs hsep hts
  | misfit => trivial
  | @condition cs tables text t =>
    obtain ⟨us, written, rest, rfl, hsource, rfl⟩ := h
    refine ⟨us, written, rest ++ [t], by simp, hsource, ?_⟩
    simp only [← Token.conditionOf_eq_clauseText]
    simp [Statement.conditionOf]
  | failed => trivial

theorem Reads.step (h : p.Reads ts) : (p.step t).Reads (ts ++ [t]) := by
  unfold Progress.step
  split
  · rename_i hskip
    unfold skips at hskip
    split at hskip
    · exact h.congr (Token.significant_concat_whitespace ts)
    · cases hskip
  · exact h.accept

/-- **The progress over tokens is an account of them.** -/
theorem reads_run (ts : List Token) : (initial.run ts).Reads ts := by
  -- from the end, as the account is of the tokens so far
  induction ts using List.reverseRecOn with
  | nil => exact ⟨rfl, rfl, rfl⟩
  | append_singleton ts t ih =>
    rw [run_concat]
    exact ih.step

theorem Reads.query {s : Statement} (h : p.Reads ts) (hok : p.outcome = .ok s) : Query ts s := by
  cases p with
  | lists cs tables place =>
    cases place with
    | start => cases hok
    | column =>
      cases hok
      obtain ⟨rfl, written, hts⟩ := h
      obtain ⟨trailing, hsep, htrailing⟩ := separated_listed Column.tokens cs
      have hselect : SelectPart cs trailing (Token.significant ts) := by
        rw [hts]
        exact .mk written hsep
      refine .select hselect fun hlast => htrailing ?_
      rintro rfl
      cases hlast
    | afterName name =>
      cases hok
      obtain ⟨rfl, written, hts⟩ := h
      have hsep := separated_concat Column.tokens cs ⟨none, name⟩
      have hselect : SelectPart (cs ++ [⟨none, name⟩]) false (Token.significant ts) := by
        rw [hts]
        exact .mk written hsep
      exact .select hselect (by simp [endsQualified])
    | afterDot table => cases hok
    | afterQualified => cases hok
    | table =>
      cases hok
      obtain ⟨trailing, us, written, hcs, hts⟩ := h
      obtain ⟨_, hsep, _⟩ := separated_listed Table.tokens tables
      have hsource : SourcePart cs tables (Token.significant ts) := by
        rw [hts]
        exact .mk written hcs hsep
      exact .source hsource
    | afterTable =>
      cases hok
      obtain ⟨trailing, us, written, tables, table, rfl, hcs, hts⟩ := h
      have hsep := separated_concat Table.tokens tables table
      have hsource : SourcePart cs (tables ++ [table]) (Token.significant ts) := by
        rw [hts]
        exact .mk written hcs hsep
      exact .source hsource
  | condition cs tables text =>
    cases hok
    obtain ⟨us, written, rest, rfl, hsource, rfl⟩ := h
    exact .condition written hsource
  | failed cs tables place found => cases hok

end Progress

/-! ## The way through a query -/

namespace Progress

variable {p : Progress} {cs ds : List Column} {tables : List String} {place : Place}
  {ts us : List Token} {trailing : Bool}

/-- **Blanks count in the condition only**, where each of them adds to the text. -/
theorem run_significant_cases (p : Progress) (ts : List Token) :
    p.run (Token.significant ts) = p.run ts ∨ ∃ cs tables text text',
      p.run (Token.significant ts) = condition cs tables text ∧
        p.run ts = condition cs tables text' := by
  induction ts generalizing p with
  | nil => exact .inl rfl
  | cons t ts ih =>
    by_cases ht : t = .whitespace
    · subst ht
      rw [Token.significant_cons_whitespace]
      cases p with
      | lists => exact ih _
      | condition => exact .inr ⟨_, _, _, _, run_condition, run_condition⟩
      | failed => exact .inl (run_failed.trans run_failed.symm)
    · rw [Token.significant_cons ht]
      exact ih (p.step t)

theorem run_of_significant (h : p.run (Token.significant ts) = lists cs tables place) :
    p.run ts = lists cs tables place := by
  obtain hrun | ⟨_, _, _, _, hcondition, -⟩ := run_significant_cases p ts
  · rw [← hrun, h]
  · cases h.symm.trans hcondition

theorem run_column (d : Column) :
    (lists cs tables .column).run (d.tokens ++ [.comma]) = lists (cs ++ [d]) tables .column := by
  obtain ⟨_ | table, name⟩ := d <;> rfl

theorem run_columns (ds : List Column) : (lists cs tables .column).run
    (listed Column.tokens ds) = lists (cs ++ ds) tables .column := by
  induction ds generalizing cs with
  | nil => simp [listed, run_nil]
  | cons d ds ih =>
    rw [listed_cons, run_append, run_column, ih]
    simp

theorem run_tables (us : List String) : (lists cs tables .table).run
    (listed Table.tokens us) = lists cs (tables ++ us) .table := by
  induction us generalizing tables with
  | nil => simp [listed, run_nil]
  | cons u us ih =>
    have hone : (lists cs tables .table).run (Table.tokens u ++ [.comma])
        = lists cs (tables ++ [u]) .table := rfl
    rw [listed_cons, run_append, hone, ih]
    simp

/-- Behind a list of columns, the next clause may follow, and the end of the input too unless a column
with its table lacks its comma. -/
theorem run_selectPart (h : SelectPart cs trailing ts) : ∃ ds place,
    initial.run ts = lists ds [] place ∧
    (∀ written, (lists ds [] place).step (.keyword .from written) = lists cs [] .table) ∧
    (lists ds [] place).outcome =
      if endsQualified cs = true ∧ trailing = false then .error ⟨.commaAfterQualified, .eof⟩
      else .ok ⟨cs, [], ""⟩ := by
  obtain ⟨written, hsep⟩ := h
  have hselect : initial.step (.keyword .select written) = lists [] [] .column := rfl
  rw [run_cons, hselect]
  obtain ⟨rfl, htrailing⟩ | ⟨cs, d, rfl, rfl, rfl⟩ := hsep.cases_last
  · refine ⟨cs, .column, run_columns cs, fun _ => rfl, ?_⟩
    rw [if_neg]
    · rfl
    · rintro ⟨hlast, rfl⟩
      cases cs with
      | nil => cases hlast
      | cons d cs => cases htrailing (by simp)
  · rw [run_append, run_columns]
    obtain ⟨_ | table, name⟩ := d
    · refine ⟨cs, .afterName name, rfl, fun _ => rfl, ?_⟩
      rw [if_neg (by simp [endsQualified])]
      rfl
    · refine ⟨cs ++ [⟨some table, name⟩], .afterQualified, rfl, fun _ => rfl, ?_⟩
      rw [if_pos (by simp [endsQualified])]
      rfl

theorem run_plain_tables (h : tables ≠ []) : (lists cs [] .table).run
    ([.comma].intercalate (tables.map Table.tokens)) = lists cs tables .afterTable := by
  obtain ⟨us, u, rfl⟩ := (List.eq_nil_or_concat tables).resolve_left h
  rw [List.concat_eq_append, intercalate_concat, run_append, run_tables]
  rfl

theorem run_sourcePart (h : SourcePart cs tables ts) : ∃ us place,
    initial.run ts = lists cs us place ∧
    (∀ written, (lists cs us place).step (.keyword .where written) = condition cs tables "") ∧
    (lists cs us place).outcome = .ok ⟨cs, tables, ""⟩ := by
  obtain ⟨written, hcs, hsep⟩ := h
  obtain ⟨ds, place, hrun, hfrom, -⟩ := run_selectPart hcs
  rw [run_append, hrun, run_cons, hfrom]
  obtain ⟨rfl, -⟩ | ⟨tables, table, rfl, rfl, rfl⟩ := hsep.cases_last
  · exact ⟨tables, .table, run_tables tables, fun _ => rfl, rfl⟩
  · rw [run_append, run_tables]
    exact ⟨tables ++ [table], .afterTable, rfl, fun _ => rfl, rfl⟩

/-- **The grammar of what is accepted.** -/
theorem outcome_eq_ok_iff {s : Statement} : (initial.run ts).outcome = .ok s ↔ Query ts s := by
  refine ⟨(reads_run ts).query, fun h => ?_⟩
  cases h with
  | select h hlast =>
    obtain ⟨ds, place, hrun, -, hok⟩ := run_selectPart h
    rw [run_of_significant hrun, hok, if_neg]
    rintro ⟨hqualified, rfl⟩
    cases hlast hqualified
  | source h =>
    obtain ⟨us, place, hrun, -, hok⟩ := run_sourcePart h
    rw [run_of_significant hrun]
    exact hok
  | condition written h =>
    obtain ⟨us, place, hrun, hwhere, -⟩ := run_sourcePart h
    rw [run_append, run_of_significant hrun, run_cons, hwhere, run_condition,
      Token.conditionOf_eq_clauseText]
    simp [outcome, close, result]

end Progress

/-- **A text is accepted as a statement just if its tokens are a query of that statement.** -/
theorem Statement.parse_eq_ok_iff {text : String} {s : Statement} :
    Statement.parse text = .ok s ↔ Query (Token.scan text) s := by
  rw [Statement.parse_eq]
  exact Progress.outcome_eq_ok_iff

end SelectQuery
