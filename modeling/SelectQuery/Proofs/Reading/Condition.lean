import SelectQuery.Proofs.Reading.Clauses
import SelectQuery.Proofs.Scan.Append

/-!
# The text of a condition

A condition is put together from tokens, but what comes of it can be said of the characters behind its
keyword alone (`Statement.condition_of_parse`). One pass over them is enough (`unquote`): quotes go, what
they enclose stays as it is, and outside of them each run of blanks becomes a single space.

The pass never looks back, so it can be taken piece by piece (`conditionOf_scanChars_eq`). At the end of
each piece it is outside of quotes, except behind a quote that has no partner, where the text ends.
-/

namespace SelectQuery

/-- One pass over a text from left to right. Each single quote is deleted and leads into quoted text or out
of it, as the flag tells. Quoted text is copied. Outside of it a blank with another one behind it is dropped,
any other blank becomes a space, and all other characters are copied. -/
def unquote : Bool → List Char → List Char
  | _, [] => []
  | quoted, c :: cs =>
    if c = '\'' then unquote (!quoted) cs
    else if quoted = true ∨ c ∉ [' ', '\t', '\n'] then c :: unquote quoted cs
    else if cs.head?.any (· ∈ [' ', '\t', '\n']) then unquote quoted cs
    else ' ' :: unquote quoted cs

variable {c : Char} {cs w rest : List Char} {quoted : Bool}

theorem unquote_quote (quoted : Bool) (cs : List Char) :
    unquote quoted ('\'' :: cs) = unquote (!quoted) cs := by
  rw [unquote, if_pos rfl]

theorem unquote_of_copied (hc : c ≠ '\'') (h : quoted = true ∨ isBlank c = false) :
    unquote quoted (c :: cs) = c :: unquote quoted cs := by
  rw [unquote, if_neg hc, if_pos]
  rwa [← isBlank_iff, Bool.not_eq_true]

theorem unquote_of_isBlank (hc : isBlank c = true) : unquote false (c :: cs) =
    if cs.head?.any isBlank then unquote false cs else ' ' :: unquote false cs := by
  have hquote : c ≠ '\'' := by
    rintro rfl
    cases hc
  have hblank : ¬(false = true ∨ c ∉ [' ', '\t', '\n']) :=
    not_or.2 ⟨Bool.false_ne_true, not_not_intro (isBlank_iff.1 hc)⟩
  rw [unquote, if_neg hquote, if_neg hblank, decide_mem_blanks]

theorem unquote_of_blank (hc : isBlank c = true) (hcs : ∀ d ∈ cs.head?, isBlank d = false) :
    unquote false (c :: cs) = ' ' :: unquote false cs := by
  rw [unquote_of_isBlank hc, if_neg]
  rw [Option.any_eq_true]
  rintro ⟨d, hd, hblank⟩
  rw [hcs d hd] at hblank
  cases hblank

theorem unquote_of_blank_blank {d : Char} (hc : isBlank c = true) (hd : isBlank d = true) :
    unquote false (c :: d :: cs) = unquote false (d :: cs) := by
  rw [unquote_of_isBlank hc, if_pos (by simpa using hd)]

/-- **Nothing is left of a text** just if it consists of quotes. -/
theorem unquote_eq_nil_iff : unquote quoted cs = [] ↔ ∀ c ∈ cs, c = '\'' := by
  fun_induction unquote quoted cs with
  | case1 => simp
  | case2 quoted cs ih => simpa using ih
  | case3 quoted c cs hc => simp [hc]
  | case4 quoted c cs hc _ hnext ih =>
    -- the blank is dropped, but not the one behind it
    obtain ⟨d, hd, hblank⟩ := (Option.any_eq_true _ _).1 hnext
    refine ih.trans ⟨fun h => ?_, fun h => absurd (h c (by simp)) hc⟩
    rw [h d (List.mem_of_mem_head? hd)] at hblank
    cases hblank
  | case5 quoted c cs hc => simp [hc]

/-! ## The pass, piece by piece -/

theorem unquote_run_of_copied (hw : ∀ c ∈ w, c ≠ '\'' ∧ (quoted = true ∨ isBlank c = false)) :
    unquote quoted (w ++ rest) = w ++ unquote quoted rest := by
  induction w with
  | nil => rfl
  | cons c w ih =>
    obtain ⟨hc, h⟩ := hw c (by simp)
    rw [List.cons_append, unquote_of_copied hc h, ih fun d hd => hw d (by simp [hd]),
      List.cons_append]

theorem unquote_run_of_blank (hne : w ≠ []) (hw : ∀ c ∈ w, isBlank c = true)
    (hrest : ∀ c ∈ rest.head?, isBlank c = false) :
    unquote false (w ++ rest) = ' ' :: unquote false rest := by
  induction w with
  | nil => exact absurd rfl hne
  | cons c w ih =>
    cases w with
    | nil => exact unquote_of_blank (hw c (by simp)) hrest
    | cons d w =>
      rw [List.cons_append, List.cons_append,
        unquote_of_blank_blank (hw c (by simp)) (hw d (by simp)), ← List.cons_append]
      exact ih (by simp) fun b hb => hw b (by simp [hb])

theorem conditionText_ofWord (text : String) : (Token.ofWord text).conditionText = text := by
  unfold Token.ofWord
  split <;> rfl

/-- Outside of quotes, the pass makes of a piece what its token adds to a condition. -/
theorem Token.Piece.unquote_eq {t : Token} (h : Piece w rest t) :
    unquote false (w ++ rest) = t.conditionText.toList ++ unquote false rest := by
  cases h with
  | dot | comma | equal => exact unquote_of_copied (by decide) (.inr (by decide))
  | blanks hne hw hrest => exact unquote_run_of_blank hne hw hrest
  | word hne hw _ =>
    rw [conditionText_ofWord, String.toList_ofList]
    refine unquote_run_of_copied fun c hc => ⟨?_, .inr (isWordChar_iff.1 (hw c hc)).1⟩
    rintro rfl
    cases hw _ hc
  | @quoted q _ hq =>
    have hcopied : ∀ c ∈ q, c ≠ '\'' ∧ (true = true ∨ isBlank c = false) :=
      fun c hc => ⟨fun h => hq (h ▸ hc), .inl rfl⟩
    have htext : '\'' :: (q ++ ['\'']) ++ rest = '\'' :: (q ++ '\'' :: rest) := by simp
    rw [htext, unquote_quote, Bool.not_false, unquote_run_of_copied hcopied, unquote_quote]
    simp [conditionText, literal]
  | @unclosed q hq =>
    have hcopied : ∀ c ∈ q, c ≠ '\'' ∧ (true = true ∨ isBlank c = false) :=
      fun c hc => ⟨fun h => hq (h ▸ hc), .inl rfl⟩
    rw [List.cons_append, unquote_quote, Bool.not_false, unquote_run_of_copied hcopied]
    simp [conditionText, literal, unquote]

/-- **The condition that a text is read as**, character by character. -/
theorem conditionOf_scanChars_eq (cs : List Char) :
    Statement.conditionOf (Token.scanChars cs) = String.ofList (unquote false cs) := by
  induction cs using Token.piece_induction with
  | nil =>
    rw [Token.scanChars_nil]
    rfl
  | @piece w rest t hp ih =>
    have hcons : Statement.conditionOf (t :: Token.scanChars rest)
        = t.conditionText ++ Statement.conditionOf (Token.scanChars rest) := by
      simp [Statement.conditionOf]
    rw [hp.scanChars_eq, hcons, ih, hp.unquote_eq, String.ofList_append, String.ofList_toList]

example : unquote false "'a'  b\t''\n  'c  ".toList = "a b  c  ".toList := by decide

/-! ## Where the condition starts -/

namespace Token

theorem quote_not_mem_of_scanChars (h : ∀ q, .quoted q ∉ scanChars cs) : '\'' ∉ cs := by
  induction cs using piece_induction with
  | nil => simp
  | @piece w rest t hp ih =>
    simp only [hp.scanChars_eq, List.mem_cons, not_or] at h
    rw [List.mem_append, not_or]
    refine ⟨?_, ih fun q => (h q).2⟩
    cases hp with
    | dot | comma | equal => decide
    | blanks _ hw _ => exact fun hmem => absurd (hw _ hmem) (by decide)
    | word _ hw _ => exact fun hmem => absurd (hw _ hmem) (by decide)
    | quoted => exact absurd rfl (h _).1
    | unclosed => exact absurd rfl (h _).1

theorem quoted_not_mem_scanChars (h : '\'' ∉ cs) (q : String) : .quoted q ∉ scanChars cs := by
  induction cs using piece_induction with
  | nil => simp [scanChars_nil]
  | @piece w rest t hp ih =>
    rw [List.mem_append, not_or] at h
    rw [hp.scanChars_eq, List.mem_cons, not_or]
    refine ⟨fun ht => ?_, ih h.2⟩
    cases hp with
    | quoted | unclosed => simp at h
    | word =>
      have hrun := run?_ofWord (String.ofList w)
      rw [← ht] at hrun
      cases hrun
    | _ => cases ht

theorem Piece.eq_written {k : Keyword} {written : String} (h : Piece w rest (.keyword k written)) :
    written = String.ofList w := by
  generalize ht : keyword k written = t at h
  cases h with
  | word =>
    unfold ofWord at ht
    split at ht
    · cases ht
      rfl
    · cases ht
  | _ => cases ht

/-- A text in three parts: in front of the keyword that ends the table list, the keyword, and what is
behind it. -/
structure ConditionParts (columns : List Column) (tables : List String)
    (before written after : List Char) : Prop where
  source : SourcePart columns tables (significant (scanChars before))
  piece : Piece written after (.keyword .where (String.ofList written))
  tokens : scanChars (before ++ (written ++ after)) =
    scanChars before ++ .keyword .where (String.ofList written) :: scanChars after

/-- If the condition is entered, its keyword has a place in the text. -/
theorem EntersCondition.exists_parts (h : EntersCondition (scanChars cs)) :
    ∃ columns tables before written after, cs = before ++ (written ++ after) ∧
      ConditionParts columns tables before written after := by
  obtain ⟨columns, tables, us, written, vs, hscan, hsource⟩ := h
  obtain ⟨before, w, after, rfl, rfl, hp, rfl⟩ := exists_piece_of_scanChars_eq hscan
  obtain rfl := hp.eq_written
  exact ⟨columns, tables, before, _, after, rfl, hsource, hp, hscan⟩

end Token

namespace Progress

variable {p : Progress} {columns : List Column} {tables : List String} {place : Place}
  {ts : List Token} {before written after : List Char}

theorem quoted_not_mem_of_run_eq_lists (h : p.run ts = lists columns tables place) (q : String) :
    .quoted q ∉ ts := by
  intro hmem
  obtain ⟨us, vs, rfl⟩ := List.append_of_mem hmem
  rw [run_append, run_cons] at h
  cases hp : p.run us with
  | lists columns' tables' place' =>
    rw [hp, step_quoted, run_failed] at h
    cases h
  | condition =>
    rw [hp, step_condition, run_condition] at h
    cases h
  | failed =>
    rw [hp, step_failed, run_failed] at h
    cases h

theorem quote_not_mem_before (h : Token.ConditionParts columns tables before written after) :
    '\'' ∉ before := by
  obtain ⟨us, place, hrun, -, -⟩ := run_sourcePart h.source
  exact Token.quote_not_mem_of_scanChars (quoted_not_mem_of_run_eq_lists (run_of_significant hrun))

theorem run_of_parts (h : Token.ConditionParts columns tables before written after) :
    initial.run (Token.scanChars (before ++ (written ++ after))) =
      condition columns tables (String.ofList (unquote false after)) := by
  obtain ⟨us, place, hrun, hwhere, -⟩ := run_sourcePart h.source
  rw [h.tokens, run_append, run_of_significant hrun, run_cons, hwhere, run_condition,
    conditionOf_scanChars_eq, String.empty_append]

theorem condition_eq_empty {s : Statement} (h : p.outcome = .ok s)
    (hp : .entering .where ∉ p.events) : s.condition = "" := by
  cases p with
  | lists columns tables place =>
    cases place with
    | start | afterDot | afterQualified => cases h
    | column | afterName | table | afterTable =>
      cases h
      rfl
  | condition => simp [events] at hp
  | failed => cases h

end Progress

namespace Statement

open Token

variable {text : String} {s : Statement}

/-- Either the condition is not entered, and there is none, or its keyword has a place in the text. -/
theorem exists_parts_of_parse (h : parse text = .ok s) :
    ¬EntersCondition (scan text) ∧ s.condition = "" ∨
      ∃ before written after, text.toList = before ++ (written ++ after) ∧
        ConditionParts s.columns s.tables before written after ∧
        s.condition = String.ofList (unquote false after) := by
  rw [parse_eq] at h
  by_cases henters : EntersCondition (scan text)
  · obtain ⟨columns, tables, before, written, after, htext, hparts⟩ := henters.exists_parts
    rw [scan, htext, Progress.run_of_parts hparts] at h
    cases h
    exact .inr ⟨before, written, after, htext, hparts, rfl⟩
  · exact .inl ⟨henters, Progress.condition_eq_empty h (mt Progress.entersCondition_iff.2 henters)⟩

/-- **The condition, character by character.** Either the keyword of the condition does not end the table
list, and there is no condition. Or it has its place in the text, with the lists and no quotes in front of
it, and the condition is what one pass makes of the characters behind it. Then the condition is empty just
if these are nothing but quotes. -/
theorem condition_of_parse (h : parse text = .ok s) :
    ¬EntersCondition (scan text) ∧ s.condition = "" ∨
      ∃ before written after, text = before ++ written ++ after ∧
        scan text = scan before ++ .keyword .where written :: scan after ∧
        SourcePart s.columns s.tables (significant (scan before)) ∧ '\'' ∉ before.toList ∧
        s.condition = String.ofList (unquote false after.toList) ∧
        (s.condition = "" ↔ ∀ c ∈ after.toList, c = '\'') := by
  obtain hnone | ⟨before, written, after, htext, hparts, hcondition⟩ := exists_parts_of_parse h
  · exact .inl hnone
  · refine .inr ⟨String.ofList before, String.ofList written, String.ofList after, ?_, ?_⟩
    · rw [← String.toList_inj, htext]
      simp
    · simp only [scan, String.toList_ofList]
      refine ⟨htext ▸ hparts.tokens, hparts.source, Progress.quote_not_mem_before hparts,
        hcondition, ?_⟩
      rw [hcondition, ← String.toList_eq_nil_iff, String.toList_ofList, unquote_eq_nil_iff]

/-- Two runs of blanks with empty quotes between them, blanks inside of quotes, and a quote without a
partner at the end. -/
theorem condition_of_parse_quotes :
    parse "select a from t Where\t'' 'x  y' = '" = .ok ⟨[⟨none, "a"⟩], ["t"], "  x  y = "⟩ ∧
      ∃ before written after, "select a from t Where\t'' 'x  y' = '" = before ++ written ++ after ∧
        scan (before ++ written ++ after) =
          scan before ++ .keyword .where written :: scan after ∧
        "  x  y = " = String.ofList (unquote false after.toList) := by
  have hparse : parse "select a from t Where\t'' 'x  y' = '"
      = .ok ⟨[⟨none, "a"⟩], ["t"], "  x  y = "⟩ := by decide +kernel
  obtain ⟨before, written, after, htext, hscan, -, -, hcondition, -⟩ :=
    (condition_of_parse hparse).resolve_left fun h => absurd h.2 (by decide)
  exact ⟨hparse, before, written, after, htext, htext ▸ hscan, hcondition⟩

end Statement

end SelectQuery
