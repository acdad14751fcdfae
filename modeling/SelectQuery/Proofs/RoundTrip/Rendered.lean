import SelectQuery.Proofs.Reading.Grammar
import SelectQuery.Proofs.Reading.Image
import SelectQuery.Proofs.RoundTrip.Blanks

/-!
# Reading the canonical form

The canonical form is written without regard to how it will be cut. As long as all names are names,
each of them is cut out as the word it is, since none but a comma, a dot, a blank or the end follows
it (`Token.Cuts`). Between the names and the keywords of the lists there may be blanks
(`Token.CutsWithBlanks`), but these do not count, and the reading gets to the end of the lists. What
comes then depends on the condition, whose first character may be glued to the keyword.
-/

namespace SelectQuery

namespace Token

/-- The text is cut into the tokens, whatever follows, as long as no word goes on behind it. -/
def Cuts (text : String) (ts : List Token) : Prop :=
  ∀ rest : List Char, (∀ c ∈ rest.head?, isWordChar c = false) →
    scanChars (text.toList ++ rest) = ts ++ scanChars rest

theorem cuts_ofWord {text : String} (hne : text ≠ "") (h : ∀ c ∈ text.toList, isWordChar c = true) :
    Cuts text [ofWord text] := by
  intro rest hrest
  rw [scanChars_word (by simpa using hne) h hrest, String.ofList_toList]
  rfl

theorem cuts_of_isName {name : String} (h : IsName name) : Cuts name [.word name] := by
  rw [← ofWord_of_isName h]
  exact cuts_ofWord h.ne_empty h.isWordChar

theorem cuts_keyword (k : Keyword) : Cuts k.spelling [.keyword k k.spelling] := by
  have hk : Keyword.ofText? k.spelling = some k := by cases k <;> decide
  rw [← ofWord_of_keyword hk]
  cases k <;> exact cuts_ofWord (by decide) (List.all_eq_true.1 (by decide))

/-- **A column is cut into its tokens.** -/
theorem cuts_column {c : Column} (h : c.IsNamed) : Cuts c.render c.tokens := by
  obtain ⟨_ | table, name⟩ := c
  · exact cuts_of_isName h.2
  · intro rest hrest
    have hdot : ∀ c ∈ ('.' :: (name.toList ++ rest)).head?, isWordChar c = false := by
      simp [isWordChar, isMark]
    have htext : (table ++ "." ++ name).toList ++ rest
        = table.toList ++ '.' :: (name.toList ++ rest) := by simp
    rw [Column.render, htext, cuts_of_isName (h.1 table rfl) _ hdot, scanChars_dot,
      cuts_of_isName h.2 rest hrest]
    rfl

/-- **A list is cut entry by entry.** -/
theorem cuts_intercalate {α : Type} {f : α → String} {g : α → List Token} {xs : List α}
    (h : ∀ x ∈ xs, Cuts (f x) (g x)) :
    Cuts (",".intercalate (xs.map f)) ([.comma].intercalate (xs.map g)) := by
  induction xs with
  | nil => exact fun rest _ => rfl
  | cons x xs ih =>
    by_cases hxs : xs = []
    · subst hxs
      simpa using h x (by simp)
    · intro rest hrest
      have hcomma : ∀ c ∈ (',' :: ((",".intercalate (xs.map f)).toList ++ rest)).head?,
          isWordChar c = false := by simp [isWordChar, isMark]
      have htext : (",".intercalate ((x :: xs).map f)).toList ++ rest
          = (f x).toList ++ ',' :: ((",".intercalate (xs.map f)).toList ++ rest) := by
        rw [List.map_cons, String.intercalate_cons_of_ne_nil (by simpa using hxs)]
        simp
      have ih' := ih (fun y hy => h y (by simp [hy])) rest hrest
      rw [htext, h x (by simp) _ hcomma, scanChars_comma, ih', List.map_cons,
        List.intercalate_cons_of_ne_nil (by simpa using hxs)]
      simp

/-! ## Parts with blanks among them -/

/-- The text is cut into the tokens, with blanks anywhere among them, whatever follows, as long as no word
goes on behind it. -/
def CutsWithBlanks (text : List Char) (ts : List Token) : Prop :=
  ∀ rest : List Char, (∀ c ∈ rest.head?, isWordChar c = false) →
    ∃ us, significant us = ts ∧ scanChars (text ++ rest) = us ++ scanChars rest

theorem Cuts.withBlanks {text : String} {ts : List Token} (h : Cuts text ts)
    (hts : significant ts = ts) : CutsWithBlanks text.toList ts :=
  fun rest hrest => ⟨ts, hts, h rest hrest⟩

theorem exists_scanChars_blank {c : Char} (hc : isBlank c = true) (cs : List Char) :
    ∃ us, significant us = [] ∧ scanChars (c :: cs) = us ++ scanChars cs := by
  cases cs with
  | nil => exact ⟨[.whitespace], rfl, by rw [scanChars_blank hc]; rfl⟩
  | cons d cs =>
    rw [scanChars_blank hc]
    by_cases hd : isBlank d = true
    · exact ⟨[], rfl, by rw [scanChars_blank hd, List.dropWhile_cons_of_pos hd]; rfl⟩
    · exact ⟨[.whitespace], rfl, by rw [List.dropWhile_cons_of_neg hd]; rfl⟩

variable {ts us : List Token} {cs ds : List Char}

theorem CutsWithBlanks.cons_blank {c : Char} (h : CutsWithBlanks cs ts) (hc : isBlank c = true) :
    CutsWithBlanks (c :: cs) ts := by
  intro rest hrest
  obtain ⟨us, hus, hscan⟩ := exists_scanChars_blank hc (cs ++ rest)
  obtain ⟨vs, hvs, hscan'⟩ := h rest hrest
  refine ⟨us ++ vs, by rw [significant_append, hus, hvs, List.nil_append], ?_⟩
  rw [List.cons_append, hscan, hscan', List.append_assoc]

theorem CutsWithBlanks.append (h : CutsWithBlanks cs ts) (h' : CutsWithBlanks ds us)
    (hds : ∀ c ∈ ds.head?, isWordChar c = false) : CutsWithBlanks (cs ++ ds) (ts ++ us) := by
  intro rest hrest
  obtain ⟨vs, hvs, hscan⟩ := h (ds ++ rest) (head_append hds fun _ => hrest)
  obtain ⟨ws, hws, hscan'⟩ := h' rest hrest
  refine ⟨vs ++ ws, by rw [significant_append, hvs, hws], ?_⟩
  rw [List.append_assoc, hscan, hscan', List.append_assoc]

theorem cutsWithBlanks_clause {α : Type} {f : α → String} {g : α → List Token} {xs : List α}
    (k : Keyword) (h : ∀ x ∈ xs, Cuts (f x) (g x)) (hg : ∀ x, IsEntry (g x)) :
    CutsWithBlanks (k.spelling.toList ++ ' ' :: (",".intercalate (xs.map f)).toList)
      (.keyword k k.spelling :: [.comma].intercalate (xs.map g)) := by
  have hlist := (cuts_intercalate h).withBlanks ((Separated.plain _).significant_eq hg)
  have hkeyword := (cuts_keyword k).withBlanks rfl
  exact hkeyword.append (hlist.cons_blank isBlank_space) (by simp [isWordChar, isBlank])

theorem cutsWithBlanks_select {columns : List Column} (h : ∀ c ∈ columns, c.IsNamed) :
    CutsWithBlanks ("SELECT ".toList ++ (",".intercalate (columns.map Column.render)).toList)
      (.keyword .select "SELECT" :: [.comma].intercalate (columns.map Column.tokens)) :=
  cutsWithBlanks_clause .select (fun c hc => cuts_column (h c hc)) isEntry_column

/-- **Both lists are cut into their tokens**, each behind its keyword. -/
theorem cutsWithBlanks_lists {s : Statement} (h : s.IsNamed) :
    CutsWithBlanks ("SELECT ".toList ++ (",".intercalate (s.columns.map Column.render)).toList ++
        (" FROM ".toList ++ (",".intercalate s.tables).toList))
      (.keyword .select "SELECT" :: [.comma].intercalate (s.columns.map Column.tokens) ++
        .keyword .from "FROM" :: [.comma].intercalate (s.tables.map Table.tokens)) := by
  have hfrom := cutsWithBlanks_clause (f := id) .from
    (fun table ht => cuts_of_isName (h.2 table ht)) isEntry_table
  rw [List.map_id] at hfrom
  exact (cutsWithBlanks_select h.1).append (hfrom.cons_blank isBlank_space)
    (by simp [isWordChar, isBlank])

end Token

theorem Statement.toList_render_of_ne_nil {s : Statement} (h : s.tables ≠ []) : s.render.toList =
    "SELECT ".toList ++ (",".intercalate (s.columns.map Column.render)).toList ++
      (" FROM ".toList ++ (",".intercalate s.tables).toList) ++
        if s.condition = "" then [] else " WHERE".toList ++ s.condition.toList := by
  rw [render, if_neg h, renderSource]
  simp only [String.toList_append, List.append_assoc]
  split <;> simp only [String.toList_append, String.toList_empty, List.append_nil]

/-! ## Reading it -/

namespace Progress

variable {cs : List Column} {tables : List String} {place : Place} {rest : List Char}

theorem run_of_cutsWithBlanks {text : List Char} {ts : List Token} (h : Token.CutsWithBlanks text ts)
    (hts : initial.run ts = lists cs tables place) (hrest : ∀ c ∈ rest.head?, isWordChar c = false) :
    initial.run (Token.scanChars (text ++ rest)) =
      (lists cs tables place).run (Token.scanChars rest) := by
  obtain ⟨us, rfl, hscan⟩ := h rest hrest
  rw [hscan, run_append, run_of_significant hts]

/-- Behind the tables, a condition is read if the keyword ends where it is to end. -/
theorem run_whereText (hrest : ∀ c ∈ rest.head?, isWordChar c = false) (hq : '\'' ∉ rest) :
    (lists cs tables .afterTable).run (Token.scanChars (" WHERE".toList ++ rest)) =
      condition cs tables (String.ofList (squeeze rest)) := by
  have htext : " WHERE".toList ++ rest = ' ' :: (Keyword.where.spelling.toList ++ rest) := rfl
  have hwhere : ∀ written, (lists cs tables .afterTable).step (.keyword .where written)
      = condition cs tables "" := fun _ => rfl
  rw [htext, run_scanChars_blank rfl, Token.cuts_keyword .where _ hrest, List.singleton_append,
    run_cons, hwhere, run_condition, conditionOf_scanChars hq]
  simp

/-- **A condition that starts with a word is glued to its keyword**, and what comes of both is a word
that cannot stand behind the tables. -/
theorem run_gluedText {w : List Char} (hne : w ≠ []) (hw : ∀ c ∈ w, isWordChar c = true)
    (hrest : ∀ c ∈ rest.head?, isWordChar c = false) :
    (lists cs tables .afterTable).run (Token.scanChars (" WHERE".toList ++ (w ++ rest))) =
      failed cs tables .afterTable (.word ("WHERE" ++ String.ofList w)) := by
  have htext : " WHERE".toList ++ (w ++ rest)
      = ' ' :: (("WHERE" ++ String.ofList w).toList ++ rest) := by simp
  have hkeyword : Keyword.ofText? ("WHERE" ++ String.ofList w) = none :=
    Keyword.ofText?_where_append (by simpa using hne)
  have hword : ∀ c ∈ ("WHERE" ++ String.ofList w).toList, isWordChar c = true := by
    intro c hc
    rw [String.toList_append, List.mem_append] at hc
    rcases hc with hc | hc
    · exact List.all_eq_true.1 (by decide : "WHERE".toList.all isWordChar = true) c hc
    · exact hw c (by simpa using hc)
  have hcuts := Token.cuts_ofWord (by simp [← String.toList_eq_nil_iff]) hword rest hrest
  rw [htext, run_scanChars_blank rfl, hcuts, List.singleton_append, run_cons]
  rw [Token.ofWord, hkeyword]
  exact run_failed

variable {s : Statement}

/-- **A statement without tables** is read up to the end of its columns, if no word goes on behind it. -/
theorem run_render_append_of_nil (h : s.IsNamed) (hnil : s.tables = [])
    (hrest : ∀ c ∈ rest.head?, isWordChar c = false) :
    initial.run (Token.scanChars (s.render.toList ++ rest)) =
      (initial.run (.keyword .select "SELECT" ::
        [.comma].intercalate (s.columns.map Column.tokens))).run (Token.scanChars rest) := by
  obtain ⟨ds, place, hselect, -, -⟩ :=
    run_selectPart (.mk "SELECT" (.plain (s.columns.map Column.tokens)))
  have htext : s.render.toList
      = "SELECT ".toList ++ (",".intercalate (s.columns.map Column.render)).toList := by
    rw [Statement.render, if_pos hnil]
    simp only [String.toList_append, String.toList_empty, List.append_nil]
  rw [htext, run_of_cutsWithBlanks (Token.cutsWithBlanks_select h.1) hselect hrest, hselect]

/-- **A statement with tables** is read up to the end of its tables. Its condition is left, and what
follows it. -/
theorem run_render_append_of_ne_nil (h : s.IsNamed) (hne : s.tables ≠ [])
    (hrest : ∀ c ∈ rest.head?, isWordChar c = false) :
    initial.run (Token.scanChars (s.render.toList ++ rest)) =
      (lists s.columns s.tables .afterTable).run (Token.scanChars
        ((if s.condition = "" then [] else " WHERE".toList ++ s.condition.toList) ++ rest)) := by
  obtain ⟨ds, place, hselect, hfrom, -⟩ :=
    run_selectPart (.mk "SELECT" (.plain (s.columns.map Column.tokens)))
  have hlists : initial.run
      (.keyword .select "SELECT" :: [.comma].intercalate (s.columns.map Column.tokens) ++
        .keyword .from "FROM" :: [.comma].intercalate (s.tables.map Table.tokens)) =
      lists s.columns s.tables .afterTable := by
    rw [run_append, hselect, run_cons, hfrom, run_plain_tables hne]
  have hhead : ∀ c ∈ ((if s.condition = "" then [] else " WHERE".toList ++ s.condition.toList) ++
      rest).head?, isWordChar c = false := by
    split
    · exact hrest
    · simp [isWordChar, isBlank]
  rw [Statement.toList_render_of_ne_nil hne, List.append_assoc,
    run_of_cutsWithBlanks (Token.cutsWithBlanks_lists h) hlists hhead]

theorem run_render_of_nil (h : s.IsNamed) (hnil : s.tables = []) :
    initial.run (Token.scan s.render) = initial.run
      (.keyword .select "SELECT" :: [.comma].intercalate (s.columns.map Column.tokens)) := by
  have hrun := @run_render_append_of_nil [] s h hnil (by simp)
  rwa [List.append_nil, Token.scanChars_nil, run_nil] at hrun

theorem run_render_of_ne_nil (h : s.IsNamed) (hne : s.tables ≠ []) :
    initial.run (Token.scan s.render) =
      (lists s.columns s.tables .afterTable).run (Token.scanChars
        (if s.condition = "" then [] else " WHERE".toList ++ s.condition.toList)) := by
  have hrun := @run_render_append_of_ne_nil [] s h hne (by simp)
  rwa [List.append_nil, List.append_nil] at hrun

end Progress

end SelectQuery
