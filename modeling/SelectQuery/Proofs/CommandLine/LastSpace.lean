import SelectQuery.CommandLine.Program
import SelectQuery.Proofs.Reading.Condition

/-!
# The space behind the last word

The program puts a space behind every word of a query, and so one more than it takes to keep the words
apart. What that last space does is decided at the end of the text in front of it
(`CommandLine.parse_queryText`).

With the quotes in pairs, the space is a blank. The lists take no notice of it, and neither does a failure;
a condition gets it as a space, unless a run of blanks is there already that it goes on with. With a quote
left over, the space belongs to the quoted text at the end. Then it shows wherever that text shows: in the
condition, or in the error about it.
-/

namespace SelectQuery

open Token

namespace Statement

variable {text : String} {s : Statement} {e : SyntaxError}

/-! ## With the quotes in pairs -/

theorem scan_space (heven : Even (text.toList.count '\'')) : scan (text ++ " ") =
    scan text ++ if (scan text).getLast? = some .whitespace then [] else [.whitespace] := by
  rw [scan, String.toList_append]
  exact scanChars_append_space heven

/-- **A space behind a statement** is one at the end of its condition, if it has been entered and does not
end with a blank yet, and nothing otherwise. -/
theorem parse_space_of_ok (heven : Even (text.toList.count '\'')) (h : parse text = .ok s) :
    parse (text ++ " ") = .ok
      (if EntersCondition (scan text) ∧ (scan text).getLast? ≠ some .whitespace then
        { s with condition := s.condition ++ " " }
      else s) := by
  have hiff := @Progress.entersCondition_iff_run (scan text)
  rw [parse_eq] at h ⊢
  rw [scan_space heven, Progress.run_append]
  cases hp : Progress.initial.run (scan text) with
  | lists columns tables place =>
    rw [hp] at h
    have hnot : ¬EntersCondition (scan text) := by simp [hiff, hp]
    -- a blank more or less is all the same to the lists
    split <;> rw [if_neg fun hc => hnot hc.1] <;> exact h
  | condition columns tables cond =>
    have henters : EntersCondition (scan text) := hiff.2 ⟨_, _, _, hp⟩
    rw [hp] at h
    cases h
    split
    · rename_i hblank
      rw [if_neg fun hc => hc.2 hblank]
      rfl
    · rename_i hblank
      rw [if_pos ⟨henters, hblank⟩]
      rfl
  | failed =>
    rw [hp] at h
    cases h

theorem parse_space_of_error (heven : Even (text.toList.count '\'')) (h : parse text = .error e) :
    parse (text ++ " ") = .error e := by
  rw [parse_eq] at h ⊢
  rw [scan_space heven, Progress.run_append]
  cases hp : Progress.initial.run (scan text) with
  | lists columns tables place =>
    rw [hp] at h
    split <;> exact h
  | condition =>
    rw [hp] at h
    cases h
  | failed =>
    rw [hp] at h
    rw [Progress.run_failed]
    exact h

/-! ## With a quote left over -/

/-- What comes of a text whose last quote has no partner: the reading in front of that quote, and then the
quoted text. -/
theorem parse_unclosed {before q : List Char} (heven : Even (before.count '\'')) (hq : '\'' ∉ q) :
    parse (String.ofList (before ++ '\'' :: q)) =
      ((Progress.initial.run (scanChars before)).step (.quoted (String.ofList q))).outcome := by
  rw [parse_eq, scan, String.toList_ofList, scanChars_append_quote heven, scanChars_unclosed hq,
    Progress.run_concat]

/-- The text in parts: its last quote, which has no partner, what is in front of it and what is behind. A
space goes to the part behind. -/
theorem exists_unclosed (hodd : ¬Even (text.toList.count '\'')) :
    ∃ before q, text = String.ofList (before ++ '\'' :: q) ∧ '\'' ∉ q ∧ Even (before.count '\'') ∧
      text.toList.count '\'' = before.count '\'' + 1 ∧
      text ++ " " = String.ofList (before ++ '\'' :: (q ++ [' '])) := by
  obtain ⟨before, q, htext, hq, heven⟩ := exists_last_quote hodd
  have heq : text = String.ofList (before ++ '\'' :: q) := by rw [← htext, String.ofList_toList]
  refine ⟨before, q, heq, hq, heven, ?_, ?_⟩
  · rw [htext, List.count_append, List.count_cons_self, List.count_eq_zero.2 hq]
  · rw [heq, ← String.toList_inj]
    simp

/-- **Quoted text that is not closed gets the space into the condition.** It would not be read anywhere
else. -/
theorem parse_space_of_ok_of_odd (hodd : ¬Even (text.toList.count '\'')) (h : parse text = .ok s) :
    parse (text ++ " ") = .ok { s with condition := s.condition ++ " " } := by
  obtain ⟨before, q, htext, hq, heven, -, hspace⟩ := exists_unclosed hodd
  rw [htext, parse_unclosed heven hq] at h
  rw [hspace, parse_unclosed heven (by simp [hq])]
  cases hp : Progress.initial.run (scanChars before) with
  | lists =>
    rw [hp, Progress.step_quoted] at h
    cases h
  | condition columns tables cond =>
    rw [hp] at h
    cases h
    rw [String.ofList_append]
    simp [Progress.step_condition, Progress.outcome, Progress.close, Progress.result,
      conditionText, literal, String.append_assoc]
  | failed =>
    rw [hp] at h
    cases h

/-- **An error about quoted text that is not closed gets the space into that text**, and every other error
stays as it is. The error is about that text just if it is about quoted text and there is no other quote. -/
theorem parse_space_of_error_of_odd (hodd : ¬Even (text.toList.count '\''))
    (h : parse text = .error e) :
    (∀ q, text.toList.count '\'' = 1 → e.found = .quoted q →
        (∃ before, text = before ++ "'" ++ q) ∧
          parse (text ++ " ") = .error { e with found := .quoted (q ++ " ") }) ∧
      (¬(text.toList.count '\'' = 1 ∧ ∃ q, e.found = .quoted q) → parse (text ++ " ") = .error e) := by
  obtain ⟨before, q, htext, hq, heven, hcount, hspace⟩ := exists_unclosed hodd
  rw [htext, parse_unclosed heven hq] at h
  rw [hspace, parse_unclosed heven (by simp [hq])]
  cases hp : Progress.initial.run (scanChars before) with
  | lists columns tables place =>
    -- no quoted text has been met, so the quote is the only one
    have hnone : '\'' ∉ before := quote_not_mem_of_scanChars (Progress.quoted_not_mem_of_run_eq_lists hp)
    have hone : text.toList.count '\'' = 1 := by rw [hcount, List.count_eq_zero.2 hnone]
    rw [hp, Progress.step_quoted] at h
    cases h
    refine ⟨fun q' _ hfound => ?_, fun hnot => absurd ⟨hone, _, rfl⟩ hnot⟩
    cases hfound
    refine ⟨⟨String.ofList before, ?_⟩, ?_⟩
    · rw [htext, ← String.toList_inj]
      simp
    · rw [Progress.step_quoted, String.ofList_append]
      rfl
  | condition =>
    rw [hp] at h
    cases h
  | failed columns tables place found =>
    rw [hp, Progress.step_failed] at h
    cases h
    refine ⟨fun q' hone hfound => ?_, fun _ => rfl⟩
    -- the token that does not fit is one of those in front of the quote, and there are no others
    have hnone : '\'' ∉ before := List.count_eq_zero.1 (by omega)
    obtain hmem | hinitial := Progress.found_of_run_failed hp
    · exact absurd (hfound ▸ hmem) (quoted_not_mem_scanChars hnone q')
    · cases hinitial

end Statement

namespace CommandLine

open Statement

/-- The words of a query with single spaces between them. -/
def joinedText (words : List String) : String := " ".intercalate words

variable {words : List String}

theorem queryText_eq (h : words ≠ []) : queryText words = joinedText words ++ " " := by
  induction words with
  | nil => exact absurd rfl h
  | cons word words ih =>
    cases words with
    | nil => simp [queryText, joinedText]
    | cons next words =>
      have hcons : queryText (word :: next :: words) = word ++ " " ++ queryText (next :: words) := by
        simp [queryText, String.append_assoc]
      have hjoined : joinedText (word :: next :: words) = word ++ " " ++ joinedText (next :: words) := by
        simp [joinedText]
      rw [hcons, ih (by simp), hjoined, ← String.append_assoc]

/-- **The space behind the last word.** The program reads the words with single spaces between them, and
one more space behind them. With the quotes in pairs, that space goes to the condition if there is one that
does not end with a blank yet, and changes nothing otherwise. With a quote left over, it goes to the quoted
text behind that quote, and so to the condition, or to the token of the error if the error is about that
text. -/
theorem parse_queryText (h : words ≠ []) :
    queryText words = joinedText words ++ " " ∧
      (Even ((joinedText words).toList.count '\'') →
        (∀ s, parse (joinedText words) = .ok s → parse (queryText words) = .ok
          (if EntersCondition (scan (joinedText words)) ∧
              (scan (joinedText words)).getLast? ≠ some .whitespace then
            { s with condition := s.condition ++ " " }
          else s)) ∧
        ∀ e, parse (joinedText words) = .error e → parse (queryText words) = .error e) ∧
      (¬Even ((joinedText words).toList.count '\'') →
        (∀ s, parse (joinedText words) = .ok s →
          parse (queryText words) = .ok { s with condition := s.condition ++ " " }) ∧
        ∀ e, parse (joinedText words) = .error e →
          (∀ q, (joinedText words).toList.count '\'' = 1 → e.found = .quoted q →
            (∃ before, joinedText words = before ++ "'" ++ q) ∧
              parse (queryText words) = .error { e with found := .quoted (q ++ " ") }) ∧
          (¬((joinedText words).toList.count '\'' = 1 ∧ ∃ q, e.found = .quoted q) →
            parse (queryText words) = .error e)) := by
  rw [queryText_eq h]
  generalize joinedText words = text
  refine ⟨rfl, fun heven => ⟨fun s hs => ?_, fun e he => ?_⟩, fun hodd => ⟨fun s hs => ?_, fun e he => ?_⟩⟩
  · exact parse_space_of_ok heven hs
  · exact parse_space_of_error heven he
  · exact parse_space_of_ok_of_odd hodd hs
  · exact parse_space_of_error_of_odd hodd he

/-- A condition that the space is all of, and quoted text in the place of a column. -/
theorem parse_queryText_unclosed :
    parse (queryText ["select a from t", "where"]) = .ok ⟨[⟨none, "a"⟩], ["t"], " "⟩ ∧
      parse (joinedText ["select", "a,", "'b"]) = .error ⟨.columnName, .quoted "b"⟩ ∧
      parse (queryText ["select", "a,", "'b"]) = .error ⟨.columnName, .quoted "b "⟩ := by
  have hread : parse (joinedText ["select a from t", "where"]) = .ok ⟨[⟨none, "a"⟩], ["t"], ""⟩ := by
    decide +kernel
  have hfailed : parse (joinedText ["select", "a,", "'b"]) = .error ⟨.columnName, .quoted "b"⟩ := by
    decide +kernel
  have hspace := ((@parse_queryText ["select a from t", "where"] (by simp)).2.1
    (by decide +kernel)).1 _ hread
  have hquoted := ((@parse_queryText ["select", "a,", "'b"] (by simp)).2.2
    (by decide +kernel)).2 _ hfailed
  rw [if_pos (by decide +kernel)] at hspace
  exact ⟨hspace, hfailed, (hquoted.1 "b" (by decide +kernel) rfl).2⟩

end CommandLine

end SelectQuery
