import SelectQuery.Proofs.Reading.Simulation
import SelectQuery.Proofs.Text.Uppercase

/-!
# What is read from a text

All names in a statement that was read are names (`IsName`), since each of them was a word of the
text, and its condition holds no quotes, since no token of a text does. Each step of the reading keeps
this up (`Progress.Clean`).
-/

namespace SelectQuery

def Column.IsNamed (c : Column) : Prop := (∀ table ∈ c.table, IsName table) ∧ IsName c.name

def Statement.IsNamed (s : Statement) : Prop :=
  (∀ c ∈ s.columns, c.IsNamed) ∧ ∀ table ∈ s.tables, IsName table

namespace Token

theorem quote_not_mem_conditionText {t : Token} (h : t.Proper) :
    '\'' ∉ t.conditionText.toList := by
  cases t with
  | eof => exact h.elim
  | whitespace => decide
  | word text => exact fun hq => h.plain _ hq (by decide)
  | quoted text => exact h
  | dot => decide
  | comma => decide
  | equal => decide
  | keyword k text => exact Keyword.quote_not_mem h
  | operator op => exact h.elim

end Token

/-- The name that is still to be put into a list is a name. -/
def Place.IsNamed : Place → Prop
  | .afterName name => IsName name
  | .afterDot name => IsName name
  | _ => True

namespace Progress

/-- All names that have been read are names, and the condition so far holds no quote. -/
def Clean : Progress → Prop
  | .lists cs tables place => Statement.IsNamed ⟨cs, tables, ""⟩ ∧ place.IsNamed
  | .condition cs tables text => Statement.IsNamed ⟨cs, tables, text⟩ ∧ '\'' ∉ text.toList
  | .failed _ _ _ _ => True

variable {p : Progress} {cs : List Column} {tables : List String} {ts : List Token} {t : Token}

theorem isNamed_concat_column {c : Column} (h : Statement.IsNamed ⟨cs, tables, ""⟩)
    (hc : c.IsNamed) : Statement.IsNamed ⟨cs ++ [c], tables, ""⟩ := by
  refine ⟨fun d hd => ?_, h.2⟩
  rcases List.mem_append.1 hd with hd | hd
  · exact h.1 d hd
  · rwa [List.mem_singleton.1 hd]

theorem isNamed_concat_table {table : String} (h : Statement.IsNamed ⟨cs, tables, ""⟩)
    (ht : IsName table) : Statement.IsNamed ⟨cs, tables ++ [table], ""⟩ := by
  refine ⟨h.1, fun u hu => ?_⟩
  rcases List.mem_append.1 hu with hu | hu
  · exact h.2 u hu
  · rwa [List.mem_singleton.1 hu]

theorem Clean.accept (h : p.Clean) (ht : t.Proper) : (p.accept t).Clean := by
  generalize hq : p.accept t = q
  cases accept_cases hq with
  | select | columnFrom | qualifiedComma | qualifiedFrom | separatorComma => exact ⟨h.1, trivial⟩
  | columnName => exact ⟨h.1, ht⟩
  | nameComma | nameFrom => exact ⟨isNamed_concat_column h.1 ⟨by simp, h.2⟩, trivial⟩
  | nameDot => exact h
  | qualifiedName =>
    refine ⟨isNamed_concat_column h.1 ⟨?_, ht⟩, trivial⟩
    intro name hname
    cases hname
    exact h.2
  | tableName => exact ⟨isNamed_concat_table h.1 ht, trivial⟩
  | tableWhere | separatorWhere => exact ⟨h.1, by simp⟩
  | misfit | failed => trivial
  | condition =>
    refine ⟨h.1, ?_⟩
    rw [String.toList_append, List.mem_append, not_or]
    exact ⟨h.2, Token.quote_not_mem_conditionText ht⟩

theorem Clean.step (h : p.Clean) (ht : t.Proper) : (p.step t).Clean := by
  unfold Progress.step
  split
  · exact h
  · exact h.accept ht

/-- **Reading proper tokens keeps everything clean.** -/
theorem Clean.run (h : p.Clean) (hts : ∀ t ∈ ts, t.Proper) : (p.run ts).Clean := by
  induction ts generalizing p with
  | nil => exact h
  | cons t ts ih =>
    rw [run_cons]
    exact ih (h.step (hts t (by simp))) fun u hu => hts u (by simp [hu])

theorem Clean.outcome {s : Statement} (h : p.Clean) (hok : p.outcome = .ok s) :
    s.IsNamed ∧ '\'' ∉ s.condition.toList := by
  cases p with
  | lists cs tables place =>
    cases place with
    | start | afterDot | afterQualified => cases hok
    | column | table | afterTable =>
      cases hok
      exact ⟨h.1, by simp⟩
    | afterName name =>
      cases hok
      exact ⟨isNamed_concat_column h.1 ⟨by simp, h.2⟩, by simp⟩
  | condition cs tables text =>
    cases hok
    exact h
  | failed cs tables place found => cases hok

end Progress

/-- **What is read is clean**: all its names are names, and no quote is left in its condition. -/
theorem Statement.isNamed_of_parse {text : String} {s : Statement}
    (h : Statement.parse text = .ok s) : s.IsNamed ∧ '\'' ∉ s.condition.toList := by
  rw [Statement.parse_eq] at h
  have hinitial : Progress.initial.Clean := ⟨⟨by simp, by simp⟩, trivial⟩
  exact (hinitial.run fun t ht => Token.proper_of_mem_scanChars ht).outcome h

end SelectQuery
