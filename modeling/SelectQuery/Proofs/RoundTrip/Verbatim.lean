import SelectQuery.Proofs.RoundTrip.Rendered

/-!
# A text for every statement

Not every statement comes back from its canonical form: one without tables loses its condition there, a
condition may be glued to its keyword, and its runs of blanks are squeezed. But there is another way to
write a statement (`Statement.verbatim`). Each entry of both lists has a comma behind it, and the condition
stands in quotes, where nothing is cut and nothing squeezed.

So a statement is read from some text just if its names are names and its condition holds no quote
(`Statement.exists_parse_iff`).
-/

namespace SelectQuery

def listedText {α : Type} (f : α → String) (xs : List α) : String :=
  String.join (xs.map fun x => f x ++ ",")

/-- The statement as a text that says all of it. -/
def Statement.verbatim (s : Statement) : String :=
  "SELECT " ++ listedText Column.render s.columns ++ "FROM " ++ listedText id s.tables ++
    "WHERE'" ++ s.condition ++ "'"

namespace Token

/-- **A list is cut entry by entry**, each with its comma. Whatever follows is cut by itself. -/
theorem scanChars_listedText {α : Type} {f : α → String} {g : α → List Token} {xs : List α}
    (h : ∀ x ∈ xs, Cuts (f x) (g x)) (rest : List Char) :
    scanChars ((listedText f xs).toList ++ rest) = listed g xs ++ scanChars rest := by
  induction xs with
  | nil => rfl
  | cons x xs ih =>
    have htext : (listedText f (x :: xs)).toList ++ rest
        = (f x).toList ++ ',' :: ((listedText f xs).toList ++ rest) := by simp [listedText]
    have hcomma : ∀ c ∈ (',' :: ((listedText f xs).toList ++ rest)).head?,
        isWordChar c = false := by simp [isWordChar, isMark]
    rw [htext, h x (by simp) _ hcomma, scanChars_comma, ih fun y hy => h y (by simp [hy]), listed_cons]
    simp

end Token

namespace Progress

variable {p : Progress} {columns : List Column} {tables : List String} {rest : List Char}

theorem run_keywordText (k : Keyword) (hrest : ∀ c ∈ rest.head?, isWordChar c = false) :
    p.run (Token.scanChars (k.spelling.toList ++ rest)) =
      (p.step (.keyword k k.spelling)).run (Token.scanChars rest) := by
  rw [Token.cuts_keyword k rest hrest, List.singleton_append, run_cons]

theorem run_columnsText (h : ∀ c ∈ columns, c.IsNamed) :
    (lists [] tables .column).run
        (Token.scanChars ((listedText Column.render columns).toList ++ rest)) =
      (lists columns tables .column).run (Token.scanChars rest) := by
  rw [Token.scanChars_listedText fun c hc => Token.cuts_column (h c hc), run_append, run_columns,
    List.nil_append]

theorem run_tablesText (h : ∀ table ∈ tables, IsName table) :
    (lists columns [] .table).run (Token.scanChars ((listedText id tables).toList ++ rest)) =
      (lists columns tables .table).run (Token.scanChars rest) := by
  have hcuts : ∀ table ∈ tables, Token.Cuts (id table) (Table.tokens table) :=
    fun table ht => Token.cuts_of_isName (h table ht)
  rw [Token.scanChars_listedText hcuts, run_append, run_tables, List.nil_append]

theorem run_quotedText {q : List Char} (hq : '\'' ∉ q) :
    (condition columns tables "").run (Token.scanChars ('\'' :: (q ++ ['\'']))) =
      condition columns tables (String.ofList q) := by
  have hscan := (@Token.Piece.quoted q [] hq).scanChars_eq
  rw [List.append_nil, Token.scanChars_nil] at hscan
  rw [hscan, run_condition]
  simp [Statement.conditionOf, Token.conditionText, Token.literal]

end Progress

namespace Statement

variable {s : Statement}

theorem toList_verbatim (s : Statement) : s.verbatim.toList =
    Keyword.select.spelling.toList ++ ' ' :: ((listedText Column.render s.columns).toList ++
      (Keyword.from.spelling.toList ++ ' ' :: ((listedText id s.tables).toList ++
        (Keyword.where.spelling.toList ++ '\'' :: (s.condition.toList ++ ['\'']))))) := by
  simp [verbatim, Keyword.spelling]

section
open Progress

/-- **The text is read as the statement**, as long as its names are names and its condition holds no
quote. -/
theorem parse_verbatim (hnamed : s.IsNamed) (hq : '\'' ∉ s.condition.toList) :
    parse s.verbatim = .ok s := by
  have hrun : initial.run (Token.scan s.verbatim) =
      .condition s.columns s.tables (String.ofList s.condition.toList) := by
    rw [Token.scan, toList_verbatim, run_keywordText .select (by simp [isWordChar, isBlank])]
    change (lists [] [] .column).run _ = _
    rw [run_scanChars_blank rfl, run_columnsText hnamed.1,
      run_keywordText .from (by simp [isWordChar, isBlank])]
    change (lists s.columns [] .table).run _ = _
    rw [run_scanChars_blank rfl, run_tablesText hnamed.2,
      run_keywordText .where (by simp [isWordChar, isMark])]
    exact run_quotedText hq
  rw [parse_eq, hrun, String.ofList_toList]
  rfl

example : parse "SELECT t.a,FROM WHERE' x\t  y'" = .ok ⟨[⟨some "t", "a"⟩], [], " x\t  y"⟩ := by
  decide +kernel

end

/-- **The statements that texts are read as**: all their names are names, and their condition holds no
quote. -/
theorem exists_parse_iff (s : Statement) :
    (∃ text, parse text = .ok s) ↔ s.IsNamed ∧ '\'' ∉ s.condition.toList := by
  constructor
  · rintro ⟨text, h⟩
    exact isNamed_of_parse h
  · rintro ⟨hnamed, hq⟩
    exact ⟨s.verbatim, parse_verbatim hnamed hq⟩

end Statement

end SelectQuery
