import SelectQuery.Proofs.RoundTrip.Rendered
import SelectQuery.Proofs.Scan.Written

/-!
# What the canonical form keeps of the tokens

A query for some tables has up to three keywords, each with the tokens behind it (`QueryParts`). Blanks
count behind the third keyword only. A token sequence can be split into its parts in one way at most
(`Token.SplitsInto.unique`), as no keyword stands in a list.

Reading a text and writing what was read leaves nearly all of its tokens as they are
(`Statement.canonicalParts_of_parse`). The keywords are written in capital letters, and what goes is a
comma at the end of a list and a third keyword without anything behind it. Quoted text would not come
back, since a statement does not tell what has been quoted.
-/

namespace SelectQuery

/-- A query in parts: each keyword as it is written, with the tokens that belong to it. -/
structure QueryParts where
  selectText : String
  columns : List Token
  fromText : String
  tables : List Token
  /-- The third keyword and what is behind it, if there is one. -/
  condition : Option (String × List Token)

namespace QueryParts

def listTokens (p : QueryParts) : List Token :=
  .keyword .select p.selectText :: (p.columns ++ .keyword .from p.fromText :: p.tables)

/-- The third keyword with its condition, or nothing. -/
def conditionTokens (p : QueryParts) : List Token :=
  match p.condition with
  | some (written, rest) => .keyword .where written :: rest
  | none => []

end QueryParts

namespace Token

def NoKeyword (ts : List Token) : Prop := ∀ k written, .keyword k written ∉ ts

/-- The tokens are those of the parts, with any blanks among them up to the condition. Each keyword is the
first one behind the keyword in front of it. -/
structure SplitsInto (ts : List Token) (p : QueryParts) : Prop where
  columns : NoKeyword p.columns
  tables : NoKeyword p.tables
  tokens : ∃ us, significant us = p.listTokens ∧ ts = us ++ p.conditionTokens

def dropComma (ts : List Token) : List Token :=
  if ts.getLast? = some .comma then ts.dropLast else ts

end Token

open Token

/-- The third keyword and a condition in their canonical form, where a condition of no tokens has no
keyword either. -/
def canonicalCondition (rest : List Token) : Option (String × List Token) :=
  if rest = [] then none else some (Keyword.where.spelling, rest)

/-- The parts in their canonical form. -/
def QueryParts.canonical (p : QueryParts) : QueryParts where
  selectText := Keyword.select.spelling
  columns := dropComma p.columns
  fromText := Keyword.from.spelling
  tables := dropComma p.tables
  condition := p.condition.bind fun c => canonicalCondition c.2

def Statement.parts (s : Statement) : QueryParts where
  selectText := Keyword.select.spelling
  columns := [.comma].intercalate (s.columns.map Column.tokens)
  fromText := Keyword.from.spelling
  tables := [.comma].intercalate (s.tables.map Table.tokens)
  condition := canonicalCondition (scan s.condition)

/-! ## Only one way to split -/

namespace Token

variable {ts us vs as bs cs ds : List Token} {p q : QueryParts} {k l : Keyword} {a b : String}

theorem append_keyword_inj (has : NoKeyword as) (hcs : NoKeyword cs)
    (h : as ++ .keyword k a :: bs = cs ++ .keyword l b :: ds) :
    as = cs ∧ (k = l ∧ a = b) ∧ bs = ds := by
  have hsplit := append_marked_inj (m := fun t => ∃ k written, t = Token.keyword k written)
    (by rintro _ ht ⟨k, written, rfl⟩; exact has k written ht)
    (by rintro _ ht ⟨k, written, rfl⟩; exact hcs k written ht) ⟨k, a, rfl⟩ ⟨l, b, rfl⟩ h
  simpa using hsplit

/-- With more tokens behind them, the lists are those of other parts only if the tokens belong to the
second list. -/
theorem listTokens_append_eq (hp : NoKeyword p.columns) (hq : NoKeyword q.columns)
    (h : p.listTokens ++ us = q.listTokens) :
    q = { p with tables := p.tables ++ us, condition := q.condition } := by
  simp only [QueryParts.listTokens, List.cons_append, List.append_assoc] at h
  obtain ⟨hselect, h⟩ := List.cons.inj h
  obtain ⟨hcolumns, ⟨-, hfrom⟩, htables⟩ := append_keyword_inj hp hq h
  obtain ⟨-, hselect⟩ := Token.keyword.inj hselect
  cases q
  simp_all

theorem SplitsInto.eq_nil_of_listTokens (hp : SplitsInto ts p) (hq : SplitsInto ts q)
    (h : significant (us ++ vs) = q.listTokens) (hus : significant us = p.listTokens)
    (hvs : vs <+: p.conditionTokens) : vs = [] := by
  rw [significant_append, hus] at h
  have hlists := listTokens_append_eq hp.columns hq.columns h
  cases hcondition : p.condition with
  | none => simpa [QueryParts.conditionTokens, hcondition] using hvs
  | some c =>
    rw [QueryParts.conditionTokens, hcondition] at hvs
    cases vs with
    | nil => rfl
    | cons t vs =>
      obtain ⟨rfl, -⟩ := List.cons_prefix_cons.1 hvs
      have hmem : .keyword .where c.1 ∈ q.tables := by
        rw [hlists]
        simp [significant]
      exact absurd hmem (hq.tables _ _)

theorem conditionTokens_inj (h : p.conditionTokens = q.conditionTokens) :
    p.condition = q.condition := by
  unfold QueryParts.conditionTokens at h
  split at h <;> split at h <;> simp_all

/-- **A token sequence can be split in one way at most.** -/
theorem SplitsInto.unique (hp : SplitsInto ts p) (hq : SplitsInto ts q) : p = q := by
  obtain ⟨us, hus, hts⟩ := hp.tokens
  obtain ⟨vs, hvs, hts'⟩ := hq.tokens
  have huv : us = vs ∧ p.conditionTokens = q.conditionTokens := by
    -- if one of the two lists went on behind the other, there would be a keyword in it
    rcases List.append_eq_append_iff.1 (hts.symm.trans hts') with ⟨ws, rfl, h⟩ | ⟨ws, rfl, h⟩
    · obtain rfl := hp.eq_nil_of_listTokens hq hvs hus ⟨_, h.symm⟩
      simpa using h
    · obtain rfl := hq.eq_nil_of_listTokens hp hus hvs ⟨_, h.symm⟩
      simpa [eq_comm] using h
  obtain ⟨rfl, hcondition⟩ := huv
  have hlists : p.listTokens ++ [] = q.listTokens := by rw [List.append_nil, ← hus, hvs]
  rw [listTokens_append_eq hp.columns hq.columns hlists, ← conditionTokens_inj hcondition,
    List.append_nil]

end Token

/-! ## The tokens of a list -/

section
variable {α : Type} {f : α → List Token} {xs : List α} {trailing : Bool} {ts : List Token}

theorem Separated.noKeyword (h : Separated (xs.map f) trailing ts) (hf : ∀ x, IsEntry (f x)) :
    NoKeyword ts := by
  intro k written hmem
  simpa using h.cases_of_mem hf hmem

theorem Separated.dropComma_eq (h : Separated (xs.map f) trailing ts) (hf : ∀ x, IsEntry (f x)) :
    dropComma ts = [.comma].intercalate (xs.map f) := by
  generalize hes : xs.map f = es at h
  cases h with
  | trailing _ => simp [dropComma]
  | plain =>
    subst hes
    rw [dropComma, if_neg]
    obtain rfl | ⟨xs, x, rfl⟩ := xs.eq_nil_or_concat
    · simp
    · obtain ⟨name, hname⟩ := (hf x).last
      rw [List.concat_eq_append, intercalate_concat, List.getLast?_append, Option.mem_def.1 hname]
      simp

end

/-! ## The parts of a text -/

namespace Token

variable {s : Statement} {ts rest : List Token}

theorem exists_parts_of_sourcePart (h : SourcePart s.columns s.tables ts)
    {condition : Option (String × List Token)}
    (hcondition : condition.bind (fun c => canonicalCondition c.2)
      = canonicalCondition (scan s.condition)) :
    ∃ p : QueryParts, p.condition = condition ∧ p.listTokens = ts ∧ NoKeyword p.columns ∧
      NoKeyword p.tables ∧ p.canonical = s.parts := by
  obtain ⟨written', ⟨written, hcolumns⟩, htables⟩ := h
  refine ⟨⟨written, _, written', _, condition⟩, rfl, rfl, hcolumns.noKeyword isEntry_column,
    htables.noKeyword isEntry_table, ?_⟩
  rw [QueryParts.canonical, Statement.parts, hcolumns.dropComma_eq isEntry_column,
    htables.dropComma_eq isEntry_table, hcondition]

theorem conditionOf_eq_write (h : ∀ q, .quoted q ∉ ts) : Statement.conditionOf ts = write ts := by
  have hwritten : ∀ t ∈ ts, t.conditionText = t.written := by
    intro t ht
    cases t with
    | quoted q => exact absurd ht (h q)
    | _ => rfl
  rw [Statement.conditionOf, write, List.map_congr_left hwritten]

/-- Without quoted text, what is behind the keyword can be told from the condition. -/
theorem IsScan.scan_condition {written : String} (h : IsScan (.keyword .where written :: rest))
    (hquoted : ∀ q, .quoted q ∉ rest) : scan (Statement.conditionOf rest) = rest := by
  rw [conditionOf_eq_write hquoted]
  exact h.tail.scan_write

theorem IsScan.head_condition {written : String} (h : IsScan (.keyword .where written :: rest))
    (hquoted : ∀ q, .quoted q ∉ rest) :
    ∀ c ∈ (Statement.conditionOf rest).toList.head?, isWordChar c = false := by
  rw [conditionOf_eq_write hquoted]
  intro c hc
  cases rest with
  | nil => cases hc
  | cons t ts =>
    by_contra hword
    rw [Bool.not_eq_false] at hword
    exact h.run?_ne rfl ((h.proper t (by simp)).has_head_write (k := .bare) hc hword)

/-- **A query without quoted text** is split into parts, and its statement has their canonical form. -/
theorem exists_splitsInto (hscan : IsScan ts) (hquoted : ∀ q, .quoted q ∉ ts) (h : Query ts s)
    (hne : s.tables ≠ []) :
    ∃ p, SplitsInto ts p ∧ SourcePart s.columns s.tables p.listTokens ∧ p.canonical = s.parts ∧
      ∀ c ∈ s.condition.toList.head?, isWordChar c = false := by
  cases h with
  | select => exact absurd rfl hne
  | @source _ columns tables hsource =>
    have hcondition' : (none : Option (String × List Token)).bind (fun c => canonicalCondition c.2)
        = canonicalCondition (scan "") := (if_pos (scan_eq_nil_iff.2 rfl)).symm
    obtain ⟨p, hcondition, hlists, hcolumns, htables, hcanonical⟩ :=
      exists_parts_of_sourcePart (s := ⟨columns, tables, ""⟩) hsource hcondition'
    have htokens : ts = ts ++ p.conditionTokens := by
      rw [QueryParts.conditionTokens, hcondition, List.append_nil]
    exact ⟨p, ⟨hcolumns, htables, ts, hlists.symm, htokens⟩, hlists ▸ hsource, hcanonical, by simp⟩
  | @condition us rest columns tables written hsource =>
    have hrest : IsScan (.keyword .where written :: rest) := hscan.of_append
    have hquoted' : ∀ q, .quoted q ∉ rest := fun q hmem => hquoted q (by simp [hmem])
    rw [← conditionOf_eq_clauseText] at hne ⊢
    have hcondition' : (some (written, rest)).bind (fun c => canonicalCondition c.2)
        = canonicalCondition (scan (Statement.conditionOf rest)) := by
      rw [hrest.scan_condition hquoted']
      rfl
    obtain ⟨p, hcondition, hlists, hcolumns, htables, hcanonical⟩ :=
      exists_parts_of_sourcePart (s := ⟨columns, tables, _⟩) hsource hcondition'
    have htokens : us ++ .keyword .where written :: rest = us ++ p.conditionTokens := by
      rw [QueryParts.conditionTokens, hcondition]
    exact ⟨p, ⟨hcolumns, htables, us, hlists.symm, htokens⟩, hlists ▸ hsource, hcanonical,
      hrest.head_condition hquoted'⟩

/-! ## The parts of the canonical form -/

theorem conditionTokens_parts (s : Statement) : s.parts.conditionTokens =
    if s.condition = "" then []
    else .keyword .where Keyword.where.spelling :: scan s.condition := by
  rw [QueryParts.conditionTokens, Statement.parts, canonicalCondition]
  simp only [scan_eq_nil_iff]
  split_ifs <;> rfl

/-- **The canonical form is split into the parts of its statement**, if that statement has tables and a
condition that does not start with a word. -/
theorem splitsInto_render (hnamed : s.IsNamed) (hne : s.tables ≠ [])
    (hhead : ∀ c ∈ s.condition.toList.head?, isWordChar c = false) :
    SplitsInto (scan s.render) s.parts := by
  refine ⟨(Separated.plain _).noKeyword isEntry_column, (Separated.plain _).noKeyword isEntry_table, ?_⟩
  rw [scan, Statement.toList_render_of_ne_nil hne, conditionTokens_parts]
  by_cases hempty : s.condition = ""
  · obtain ⟨us, hus, hscan⟩ := cutsWithBlanks_lists hnamed [] (by simp)
    exact ⟨us, hus, by rw [if_pos hempty, if_pos hempty, hscan, scanChars_nil]⟩
  · have htext : " WHERE".toList ++ s.condition.toList
        = ' ' :: (Keyword.where.spelling.toList ++ s.condition.toList) := rfl
    obtain ⟨us, hus, hscan⟩ := cutsWithBlanks_lists hnamed
      (' ' :: (Keyword.where.spelling.toList ++ s.condition.toList)) (by simp [isWordChar, isBlank])
    obtain ⟨vs, hvs, hscan'⟩ := exists_scanChars_blank isBlank_space
      (Keyword.where.spelling.toList ++ s.condition.toList)
    refine ⟨us ++ vs, by rw [significant_append, hus, hvs, List.append_nil]; rfl, ?_⟩
    rw [if_neg hempty, if_neg hempty, htext, hscan, hscan', cuts_keyword .where _ hhead]
    simp [scan]

end Token

namespace Statement

variable {text : String} {s : Statement}

/-- **The canonical form keeps the tokens**, for a text without quotes and a statement with tables. The
text is split into parts, in one way only, with the keywords that the grammar has for the statement. And
the canonical form is split into the canonical form of these parts. -/
theorem canonicalParts_of_parse (h : parse text = .ok s) (hq : '\'' ∉ text.toList)
    (hne : s.tables ≠ []) :
    ∃ p, (∀ q, SplitsInto (scan text) q ↔ q = p) ∧ SourcePart s.columns s.tables p.listTokens ∧
      ∀ q, SplitsInto (scan s.render) q ↔ q = p.canonical := by
  have hnamed := (isNamed_of_parse h).1
  rw [parse_eq] at h
  obtain ⟨p, hp, hsource, hcanonical, hhead⟩ := exists_splitsInto (isScan_scanChars text.toList)
    (quoted_not_mem_scanChars hq) (Progress.outcome_eq_ok_iff.1 h) hne
  have hrender : SplitsInto (scan s.render) p.canonical :=
    hcanonical ▸ splitsInto_render hnamed hne hhead
  have honly : ∀ {ts : List Token} {p : QueryParts}, SplitsInto ts p →
      ∀ q, SplitsInto ts q ↔ q = p :=
    fun hp q => ⟨fun hq => hq.unique hp, fun heq => heq ▸ hp⟩
  exact ⟨p, honly hp, hsource, honly hrender⟩

/-- A comma at the end of both lists, and a condition that starts with a comma and ends with a keyword. -/
theorem canonicalParts_of_parse_commas :
    parse "select t.a , b, from t ,u, where ,x  = From"
        = .ok ⟨[⟨some "t", "a"⟩, ⟨none, "b"⟩], ["t", "u"], " ,x = From"⟩ ∧
      SplitsInto (scan "SELECT t.a,b FROM t,u WHERE ,x = From")
        ⟨"SELECT", [.word "t", .dot, .word "a", .comma, .word "b"], "FROM",
          [.word "t", .comma, .word "u"], some ("WHERE", [.whitespace, .comma, .word "x",
            .whitespace, .equal, .whitespace, .keyword .from "From"])⟩ := by
  have hparse : parse "select t.a , b, from t ,u, where ,x  = From"
      = .ok ⟨[⟨some "t", "a"⟩, ⟨none, "b"⟩], ["t", "u"], " ,x = From"⟩ := by decide +kernel
  have hsplit : SplitsInto (scan "select t.a , b, from t ,u, where ,x  = From")
      ⟨"select", [.word "t", .dot, .word "a", .comma, .word "b", .comma], "from",
        [.word "t", .comma, .word "u", .comma], some ("where", [.whitespace, .comma, .word "x",
          .whitespace, .equal, .whitespace, .keyword .from "From"])⟩ := by
    refine ⟨by simp [NoKeyword], by simp [NoKeyword],
      scan "select t.a , b, from t ,u, ", by decide +kernel, by decide +kernel⟩
  obtain ⟨p, hp, -, hrender⟩ := canonicalParts_of_parse hparse (by decide) (by decide)
  obtain rfl := (hp _).1 hsplit
  exact ⟨hparse, (hrender _).2 rfl⟩

end Statement

end SelectQuery
