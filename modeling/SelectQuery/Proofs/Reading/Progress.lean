import SelectQuery.Proofs.Scan.Image
import SelectQuery.Statement.Read

/-!
# Reading token by token

Reading a statement can be told without lists and entries, as what each token does to what has been
read before it. `Progress` holds the columns and tables so far and the place in the query, and
`Progress.accept` takes one more token. A token that the place has no use for ends the reading there.

Blanks are left out in front of the condition. `Progress.runFrom` leaves out a single whitespace
token between two others, whatever the tokens are; `Progress.run` leaves out all of them. Both come to
the same on tokens without neighbouring blanks (`runFrom_eq_run`).
-/

namespace SelectQuery

/-- A place in the two lists of a query. -/
inductive Place where
  /-- In front of everything. -/
  | start
  /-- Where a column may stand, or the end of the column list. -/
  | column
  /-- Behind the first name of a column. -/
  | afterName (name : String)
  /-- Behind the dot after the name of a table. -/
  | afterDot (table : String)
  /-- Behind a column with its table. -/
  | afterQualified
  /-- Where a table may stand, or the end of the table list. -/
  | table
  /-- Behind a table. -/
  | afterTable
  deriving DecidableEq

namespace Place

/-- What would fit at the place. -/
def expectation : Place → Expectation
  | .start => .selectKeyword
  | .column => .columnName
  | .afterName _ => .dotAfterName
  | .afterDot _ => .columnNameAfterDot
  | .afterQualified => .commaAfterQualified
  | .table => .tableName
  | .afterTable => .commaAfterTable

def clause : Place → Keyword
  | .start | .column | .afterName _ | .afterDot _ | .afterQualified => .select
  | .table | .afterTable => .from

end Place

/-- The end of a reading: the completion of a statement, or an error without a further event. -/
def Reading.ofResult : Except SyntaxError Statement → Reading
  | .ok s => .complete s
  | .error e => .failed e

theorem Reading.result_ofResult (x : Except SyntaxError Statement) :
    (Reading.ofResult x).result = x := by
  cases x <;> rfl

/-- How far a query has been read: the columns and tables so far, and what is being read. -/
inductive Progress where
  /-- One of the lists, up to a place in it. -/
  | lists (columns : List Column) (tables : List String) (place : Place)
  /-- The condition, up to a text. -/
  | condition (columns : List Column) (tables : List String) (text : String)
  /-- Nothing any more, as a token did not fit at a place. -/
  | failed (columns : List Column) (tables : List String) (place : Place) (found : Token)
  deriving DecidableEq

namespace Progress

def initial : Progress := .lists [] [] .start

/-- The next token is read. -/
def accept : Progress → Token → Progress
  | .lists cs ts .start, .keyword .select _ => .lists cs ts .column
  | .lists cs ts .column, .word name => .lists cs ts (.afterName name)
  | .lists cs ts .column, .keyword .from _ => .lists cs ts .table
  | .lists cs ts (.afterName name), .comma => .lists (cs ++ [⟨none, name⟩]) ts .column
  | .lists cs ts (.afterName name), .keyword .from _ => .lists (cs ++ [⟨none, name⟩]) ts .table
  | .lists cs ts (.afterName name), .dot => .lists cs ts (.afterDot name)
  | .lists cs ts (.afterDot table), .word name =>
    .lists (cs ++ [⟨some table, name⟩]) ts .afterQualified
  | .lists cs ts .afterQualified, .comma => .lists cs ts .column
  | .lists cs ts .afterQualified, .keyword .from _ => .lists cs ts .table
  | .lists cs ts .table, .word name => .lists cs (ts ++ [name]) .afterTable
  | .lists cs ts .table, .keyword .where _ => .condition cs ts ""
  | .lists cs ts .afterTable, .comma => .lists cs ts .table
  | .lists cs ts .afterTable, .keyword .where _ => .condition cs ts ""
  | .lists cs ts place, t => .failed cs ts place t
  | .condition cs ts text, t => .condition cs ts (text ++ t.conditionText)
  | .failed cs ts place found, _ => .failed cs ts place found

/-- What a token makes of a reading. Each kind of token that fits somewhere has a case of its own there, and
all the others are misfits. -/
inductive Accepts : Progress → Token → Progress → Prop
  | select {cs ts written} :
      Accepts (.lists cs ts .start) (.keyword .select written) (.lists cs ts .column)
  | columnName {cs ts name} :
      Accepts (.lists cs ts .column) (.word name) (.lists cs ts (.afterName name))
  | columnFrom {cs ts written} :
      Accepts (.lists cs ts .column) (.keyword .from written) (.lists cs ts .table)
  | nameComma {cs ts name} :
      Accepts (.lists cs ts (.afterName name)) .comma (.lists (cs ++ [⟨none, name⟩]) ts .column)
  | nameFrom {cs ts name written} : Accepts (.lists cs ts (.afterName name)) (.keyword .from written)
      (.lists (cs ++ [⟨none, name⟩]) ts .table)
  | nameDot {cs ts name} :
      Accepts (.lists cs ts (.afterName name)) .dot (.lists cs ts (.afterDot name))
  | qualifiedName {cs ts table name} : Accepts (.lists cs ts (.afterDot table)) (.word name)
      (.lists (cs ++ [⟨some table, name⟩]) ts .afterQualified)
  | qualifiedComma {cs ts} : Accepts (.lists cs ts .afterQualified) .comma (.lists cs ts .column)
  | qualifiedFrom {cs ts written} :
      Accepts (.lists cs ts .afterQualified) (.keyword .from written) (.lists cs ts .table)
  | tableName {cs ts name} :
      Accepts (.lists cs ts .table) (.word name) (.lists cs (ts ++ [name]) .afterTable)
  | tableWhere {cs ts written} :
      Accepts (.lists cs ts .table) (.keyword .where written) (.condition cs ts "")
  | separatorComma {cs ts} : Accepts (.lists cs ts .afterTable) .comma (.lists cs ts .table)
  | separatorWhere {cs ts written} :
      Accepts (.lists cs ts .afterTable) (.keyword .where written) (.condition cs ts "")
  | misfit {cs ts place t} (h : ∀ cs ts, accept (.lists cs ts place) t = .failed cs ts place t) :
      Accepts (.lists cs ts place) t (.failed cs ts place t)
  | condition {cs ts text t} :
      Accepts (.condition cs ts text) t (.condition cs ts (text ++ t.conditionText))
  | failed {cs ts place found t} :
      Accepts (.failed cs ts place found) t (.failed cs ts place found)

/-- **All that a token can do.** What is true of a step is proved from here, by the name of the case. -/
theorem accept_cases {p q : Progress} {t : Token} (h : p.accept t = q) : Accepts p t q := by
  subst h
  fun_cases accept p t <;> constructor
  intro cs ts
  unfold accept
  split <;> simp_all

/-- The end of the input is met. -/
def close : Progress → Progress
  | .lists cs ts .start => .failed cs ts .start .eof
  | .lists cs ts (.afterName name) => .lists (cs ++ [⟨none, name⟩]) ts .column
  | .lists cs ts (.afterDot table) => .failed cs ts (.afterDot table) .eof
  | .lists cs ts .afterQualified => .failed cs ts .afterQualified .eof
  | .lists cs ts .afterTable => .lists cs ts .table
  | p => p

/-- What has been read, if nothing follows. -/
def result : Progress → Except SyntaxError Statement
  | .lists cs ts _ => .ok ⟨cs, ts, ""⟩
  | .condition cs ts text => .ok ⟨cs, ts, text⟩
  | .failed _ _ place found => .error ⟨place.expectation, found⟩

/-- What comes of the input up to here. -/
def outcome (p : Progress) : Except SyntaxError Statement := p.close.result

/-- The events on the way. The table list has been entered behind the second keyword only, and the
condition behind the third. -/
def events (p : Progress) : List Event :=
  let (columns, tables, clause) := match p with
    | .lists cs ts place => (cs, ts, place.clause)
    | .condition cs ts _ => (cs, ts, .where)
    | .failed cs ts place _ => (cs, ts, place.clause)
  .entering .select :: columns.map .column ++
    match clause with
    | .select => []
    | .from => .entering .from :: tables.map .table
    | .where => .entering .from :: tables.map .table ++ [.entering .where]

/-- The reading up to the end of the input. -/
def reading (p : Progress) : Reading := .after p.close.events (.ofResult p.outcome)

theorem result_reading (p : Progress) : p.reading.result = p.outcome :=
  Reading.result_ofResult p.outcome

/-! ## Blanks -/

/-- Is the token a blank that may be left out? -/
def skips : Progress → Token → Bool
  | .lists _ _ _, .whitespace => true
  | _, _ => false

/-- Reads tokens and leaves out single whitespace tokens. One that follows another one is no longer
left out; `blank` tells whether one has just been. -/
def runFrom (blank : Bool) (p : Progress) : List Token → Progress
  | [] => p
  | t :: ts => if p.skips t && !blank then p.runFrom true ts else (p.accept t).runFrom false ts

def step (p : Progress) (t : Token) : Progress := if p.skips t then p else p.accept t

/-- Reads tokens and leaves out the blanks. -/
def run (p : Progress) (ts : List Token) : Progress := ts.foldl step p

section
variable {p : Progress} {cs : List Column} {tables : List String} {place : Place}
  {text : String} {t found : Token} {ts us : List Token} {blank : Bool}

theorem run_nil : p.run [] = p := rfl

theorem run_cons : p.run (t :: ts) = (p.step t).run ts := rfl

theorem run_append : p.run (ts ++ us) = (p.run ts).run us := by
  simp [run, List.foldl_append]

theorem run_concat : p.run (ts ++ [t]) = (p.run ts).step t := run_append

theorem step_of_ne_whitespace (h : t ≠ .whitespace) : p.step t = p.accept t := by
  rw [step, if_neg]
  unfold skips
  split
  · exact absurd rfl h
  · exact Bool.false_ne_true

theorem step_whitespace : (lists cs tables place).step .whitespace = lists cs tables place := rfl

theorem step_quoted (quoted : String) : (lists cs tables place).step (.quoted quoted) =
    failed cs tables place (.quoted quoted) := by
  cases place <;> rfl

theorem step_condition :
    (condition cs tables text).step t = condition cs tables (text ++ t.conditionText) := rfl

theorem step_failed : (failed cs tables place found).step t = failed cs tables place found := rfl

/-- **A condition takes all tokens.** -/
theorem run_condition : (condition cs tables text).run ts =
    condition cs tables (text ++ Statement.conditionOf ts) := by
  induction ts generalizing text with
  | nil => simp [run_nil, Statement.conditionOf]
  | cons t ts ih => rw [run_cons, step_condition, ih]; simp [Statement.conditionOf, String.append_assoc]

/-- **Nothing is read after an error.** -/
theorem run_failed : (failed cs tables place found).run ts = failed cs tables place found := by
  induction ts with
  | nil => rfl
  | cons t ts ih => rw [run_cons, step_failed, ih]

/-- A reading fails in the lists, with the token that it comes to, or it has failed before. -/
theorem accept_failed_cases (h : p.accept t = failed cs tables place found) :
    p = lists cs tables place ∧ found = t ∨ p = failed cs tables place found := by
  cases accept_cases h with
  | misfit => exact .inl ⟨rfl, rfl⟩
  | failed => exact .inr rfl

theorem found_of_run_failed (h : p.run ts = failed cs tables place found) :
    found ∈ ts ∨ p = failed cs tables place found := by
  induction ts generalizing p with
  | nil => exact .inr h
  | cons t ts ih =>
    rcases ih h with hfound | hstep
    · exact .inl (List.mem_cons_of_mem t hfound)
    · unfold step at hstep
      split at hstep
      · exact .inr hstep
      · obtain ⟨-, rfl⟩ | hp := accept_failed_cases hstep
        · exact .inl List.mem_cons_self
        · exact .inr hp

theorem run_scanChars_dropWhile (rest : List Char) :
    (lists cs tables place).run (Token.scanChars (rest.dropWhile isBlank)) =
      (lists cs tables place).run (Token.scanChars rest) := by
  cases rest with
  | nil => rfl
  | cons c rest =>
    by_cases hc : isBlank c = true
    · rw [List.dropWhile_cons_of_pos hc, Token.scanChars_blank hc, run_cons, step_whitespace]
    · rw [List.dropWhile_cons_of_neg hc]

theorem run_scanChars_blank {c : Char} (hc : isBlank c = true) (rest : List Char) :
    (lists cs tables place).run (Token.scanChars (c :: rest)) =
      (lists cs tables place).run (Token.scanChars rest) := by
  rw [Token.scanChars_blank hc, run_cons, step_whitespace, run_scanChars_dropWhile]

theorem runFrom_condition : (condition cs tables text).runFrom blank ts =
    condition cs tables (text ++ Statement.conditionOf ts) := by
  induction ts generalizing text blank with
  | nil => simp [runFrom, Statement.conditionOf]
  | cons t ts ih => simp [runFrom, skips, accept, ih, Statement.conditionOf, String.append_assoc]

theorem runFrom_failed :
    (failed cs tables place found).runFrom blank ts = failed cs tables place found := by
  induction ts generalizing blank with
  | nil => rfl
  | cons t ts ih => simp [runFrom, skips, accept, ih]

theorem eq_whitespace_of_skips (h : p.skips t = true) : t = .whitespace := by
  unfold skips at h
  split at h
  · rfl
  · cases h

/-- **Up to a blank without another one in front of it**, all blanks are left out that may be. -/
theorem runFrom_append (us : List Token) (hthin : Token.Thin (ts ++ [.whitespace]))
    (hblank : blank = true → (ts ++ [Token.whitespace]).head? ≠ some .whitespace) :
    p.runFrom blank (ts ++ us) = (p.run ts).runFrom false us := by
  induction ts generalizing p blank with
  | nil =>
    have hb : blank = false := by simpa using hblank
    rw [hb, run_nil, List.nil_append]
  | cons t ts ih =>
    obtain ⟨hhead, htail⟩ := List.isChain_cons.1 hthin
    rw [List.cons_append, runFrom, run_cons]
    by_cases hskip : p.skips t = true
    · have ht : t = .whitespace := eq_whitespace_of_skips hskip
      have hb : blank = false := by simpa [ht] using hblank
      rw [hskip, hb, step, if_pos hskip]
      exact ih htail fun _ hws => hhead _ hws ⟨ht, rfl⟩
    · rw [step, if_neg hskip]
      have hfalse : false = true → (ts ++ [Token.whitespace]).head? ≠ some .whitespace := nofun
      simpa [hskip] using ih htail hfalse

/-- **Single whitespace tokens are all there are** between tokens without neighbouring blanks. -/
theorem runFrom_eq_run (hthin : Token.Thin ts) : p.runFrom false ts = p.run ts := by
  -- a blank at the end is left out or read alone, and all the others have a token behind them
  obtain rfl | ⟨us, t, rfl⟩ := ts.eq_nil_or_concat
  · rfl
  · rw [List.concat_eq_append] at hthin ⊢
    by_cases ht : t = .whitespace
    · subst ht
      rw [runFrom_append _ hthin (by simp), run_concat, step]
      cases hskip : (p.run us).skips .whitespace <;> simp [runFrom, hskip]
    · have hthin' : Token.Thin (us ++ [t] ++ [.whitespace]) := by
        refine List.isChain_append.2 ⟨hthin, .singleton _, ?_⟩
        simp [ht]
      rw [← List.append_nil (us ++ [t]), runFrom_append _ hthin' (by simp), runFrom, List.append_nil]

end

end Progress

end SelectQuery
