import SelectQuery.Proofs.RoundTrip.Rendered
import SelectQuery.Statement.RoundTrip

/-!
# Reading a statement again

What comes of reading the canonical form can be told from the statement alone (`secondReading`), as
long as its names are names and its condition holds no quote, which is so for every statement that was
read. Most statements come back as they are (`IsStable`), and those that come back changed do so only
once (`isStable_of_secondReading`). No others come back as they are, not even among the statements that
were put together by hand.
-/

namespace SelectQuery

/-- What tells errors apart: the wording of what was expected, and the token that was found. -/
def SyntaxError.content (e : SyntaxError) : String × Token := (e.expectation.text, e.found)

namespace Statement

/-- What comes of reading the canonical form of a statement, if its names are names and its condition
holds no quote.

Without tables the condition is not written, and the last column stands at the end, where a column with
its table may not stand. With tables it depends on the start of the condition. One that starts with a
word is glued to its keyword, and any other one comes back with its runs of blanks squeezed. -/
def secondReading (s : Statement) : Except (String × Token) Statement :=
  if s.tables = [] then
    if endsQualified s.columns then .error ("expected comma after table.column", .eof)
    else .ok { s with condition := "" }
  else
    match s.condition.toList with
    | [] => .ok s
    | c :: cs =>
      if c ∈ [' ', '\t', '\n', '.', ',', '='] then
        .ok { s with condition := String.ofList (squeeze (c :: cs)) }
      else
        let word := (c :: cs).takeWhile (· ∉ [' ', '\t', '\n', '.', ',', '='])
        .error ("expected comma", .word ("WHERE" ++ String.ofList word))

variable {s : Statement} {text : String} {c : Char} {cs : List Char}

theorem isWordChar_eq_of_ne_quote (h : c ≠ '\'') :
    isWordChar c = decide (c ∉ [' ', '\t', '\n', '.', ',', '=']) := by
  rw [Bool.eq_iff_iff, isWordChar_iff_not_mem, decide_eq_true_iff]
  simp [h]

theorem takeWhile_isWordChar (hq : '\'' ∉ cs) :
    cs.takeWhile (· ∉ [' ', '\t', '\n', '.', ',', '=']) = cs.takeWhile isWordChar := by
  induction cs with
  | nil => rfl
  | cons c cs ih =>
    rw [List.mem_cons, not_or] at hq
    rw [List.takeWhile_cons, List.takeWhile_cons, ih hq.2,
      isWordChar_eq_of_ne_quote fun h => hq.1 h.symm]

/-! ## The second reading, case by case -/

section
open Progress

theorem reread_of_nil (hnamed : s.IsNamed) (hnil : s.tables = []) :
    s.reread = if endsQualified s.columns then .error ⟨.commaAfterQualified, .eof⟩
      else .ok { s with condition := "" } := by
  obtain ⟨ds, place, hselect, -, hend⟩ :=
    run_selectPart (.mk "SELECT" (.plain (s.columns.map Column.tokens)))
  rw [reread, parse_eq, run_render_of_nil hnamed hnil, hselect, hend, hnil]
  simp

theorem reread_of_empty (hnamed : s.IsNamed) (hne : s.tables ≠ []) (hempty : s.condition = "") :
    s.reread = .ok s := by
  rw [reread, parse_eq, run_render_of_ne_nil hnamed hne, if_pos hempty, Token.scanChars_nil, run_nil]
  exact congrArg Except.ok (congrArg (Statement.mk _ _) hempty.symm)

theorem reread_of_mark (hnamed : s.IsNamed) (hne : s.tables ≠ []) (hq : '\'' ∉ s.condition.toList)
    (hcond : s.condition.toList = c :: cs) (hc : c ∈ [' ', '\t', '\n', '.', ',', '=']) :
    s.reread = .ok { s with condition := String.ofList (squeeze (c :: cs)) } := by
  have hcondition : s.condition ≠ "" := by simp [← String.toList_eq_nil_iff, hcond]
  rw [hcond] at hq
  have hhead : ∀ d ∈ (c :: cs).head?, isWordChar d = false := by
    intro d hd
    cases hd
    rw [isWordChar_eq_of_ne_quote fun h => hq (by simp [h])]
    exact decide_eq_false (not_not_intro hc)
  rw [reread, parse_eq, run_render_of_ne_nil hnamed hne, if_neg hcondition, hcond,
    run_whereText hhead hq]
  rfl

theorem reread_of_word (hnamed : s.IsNamed) (hne : s.tables ≠ []) (hq : '\'' ∉ s.condition.toList)
    (hcond : s.condition.toList = c :: cs) (hc : c ∉ [' ', '\t', '\n', '.', ',', '=']) :
    s.reread = .error ⟨.commaAfterTable,
      .word ("WHERE" ++ String.ofList ((c :: cs).takeWhile isWordChar))⟩ := by
  have hcondition : s.condition ≠ "" := by simp [← String.toList_eq_nil_iff, hcond]
  rw [hcond] at hq
  have hword : isWordChar c = true := by
    rw [isWordChar_eq_of_ne_quote fun h => hq (by simp [h])]
    exact decide_eq_true hc
  have hglued := @run_gluedText s.columns s.tables _ ((c :: cs).takeWhile isWordChar)
    (by simp [hword]) (fun d hd => List.mem_takeWhile_imp hd) (@head_dropWhile isWordChar (c :: cs))
  rw [List.takeWhile_append_dropWhile] at hglued
  rw [reread, parse_eq, run_render_of_ne_nil hnamed hne, if_neg hcondition, hcond, hglued]
  rfl

end

/-- **The second reading**, for every statement with names for its names and no quote in its
condition. -/
theorem reread_eq (hnamed : s.IsNamed) (hq : '\'' ∉ s.condition.toList) :
    s.reread.mapError SyntaxError.content = s.secondReading := by
  rw [secondReading]
  by_cases hnil : s.tables = []
  · rw [reread_of_nil hnamed hnil, if_pos hnil]
    split <;> rfl
  · rw [if_neg hnil]
    cases hcond : s.condition.toList with
    | nil =>
      rw [reread_of_empty hnamed hnil (String.toList_eq_nil_iff.1 hcond)]
      rfl
    | cons c cs =>
      by_cases hc : c ∈ [' ', '\t', '\n', '.', ',', '=']
      · rw [reread_of_mark hnamed hnil hq hcond hc]
        simp only [if_pos hc]
        rfl
      · rw [reread_of_word hnamed hnil hq hcond hc]
        rw [hcond] at hq
        simp only [if_neg hc, takeWhile_isWordChar hq]
        rfl

theorem mapError_eq_ok_iff {α β γ : Type} {f : α → β} {x : Except α γ} {a : γ} :
    x.mapError f = .ok a ↔ x = .ok a := by
  cases x <;> simp [Except.mapError]

/-! ## The statements that come back as they are -/

/-- The canonical form of the statement is read as the statement itself. -/
structure IsStable (s : Statement) : Prop where
  named : s.IsNamed
  /-- Without tables, nothing is said that needs them. -/
  bare : s.tables = [] → s.condition = "" ∧ endsQualified s.columns = false
  /-- The condition does not run into its keyword, and it is written as it is read. -/
  condition : s.condition = "" ∨
    (∃ c ∈ s.condition.toList.head?, c ∈ [' ', '.', ',', '=']) ∧ '\'' ∉ s.condition.toList ∧
      '\t' ∉ s.condition.toList ∧ '\n' ∉ s.condition.toList ∧ ¬[' ', ' '] <:+: s.condition.toList

theorem IsStable.quote_not_mem (h : s.IsStable) : '\'' ∉ s.condition.toList := by
  rcases h.condition with hempty | ⟨-, hq, -⟩
  · simp [hempty]
  · exact hq

theorem IsStable.secondReading_eq (h : s.IsStable) : s.secondReading = .ok s := by
  rw [secondReading]
  by_cases hnil : s.tables = []
  · obtain ⟨hempty, hlast⟩ := h.bare hnil
    rw [if_pos hnil, if_neg (by simp [hlast]), ← hempty]
  · rw [if_neg hnil]
    cases hcond : s.condition.toList with
    | nil => rfl
    | cons c cs =>
      have hne : s.condition ≠ "" := by simp [← String.toList_eq_nil_iff, hcond]
      obtain ⟨⟨d, hd, hstart⟩, -, hblanks⟩ := h.condition.resolve_left hne
      rw [hcond] at hd hblanks
      cases hd
      have hc : c ∈ [' ', '\t', '\n', '.', ',', '='] := by grind
      simp only [if_pos hc, squeeze_eq_self_iff.2 hblanks]
      rw [← hcond, String.ofList_toList]

/-- What comes back is stable: the second reading is the last that changes anything. -/
theorem isStable_of_secondReading {s₂ : Statement} (hnamed : s.IsNamed)
    (hq : '\'' ∉ s.condition.toList) (h : s.secondReading = .ok s₂) : s₂.IsStable := by
  rw [secondReading] at h
  by_cases hnil : s.tables = []
  · rw [if_pos hnil] at h
    by_cases hlast : endsQualified s.columns = true
    · rw [if_pos hlast] at h
      cases h
    · rw [if_neg hlast] at h
      cases h
      exact ⟨hnamed, fun _ => ⟨rfl, by simpa using hlast⟩, .inl rfl⟩
  · rw [if_neg hnil] at h
    cases hcond : s.condition.toList with
    | nil =>
      rw [hcond] at h
      cases h
      exact ⟨hnamed, fun h => absurd h hnil, .inl (String.toList_eq_nil_iff.1 hcond)⟩
    | cons c cs =>
      rw [hcond] at h hq
      by_cases hc : c ∈ [' ', '\t', '\n', '.', ',', '=']
      · simp only [if_pos hc] at h
        cases h
        refine ⟨hnamed, fun h => absurd h hnil, .inr ?_⟩
        rw [String.toList_ofList]
        refine ⟨?_, fun hmem => ?_, squeeze_eq_self_iff.1 (squeeze_squeeze _)⟩
        · refine ⟨_, head_squeeze (c :: cs), ?_⟩
          grind [isBlank_iff]
        · rcases mem_of_mem_squeeze hmem with h' | h'
          · cases h'
          · exact hq h'
      · simp only [if_neg hc] at h
        cases h

/-- **The statements that come back as they are**, among all statements. -/
theorem parse_render_eq_self_iff : parse s.render = .ok s ↔ s.IsStable := by
  constructor
  · intro h
    obtain ⟨hnamed, hq⟩ := isNamed_of_parse h
    refine isStable_of_secondReading hnamed hq ?_
    rw [← reread_eq hnamed hq]
    exact mapError_eq_ok_iff.2 h
  · intro h
    have hreread := reread_eq h.named h.quote_not_mem
    rw [h.secondReading_eq] at hreread
    exact mapError_eq_ok_iff.1 hreread

/-- **Reading twice**, for every statement that was read: what the second reading gives, and that a
third one gives the same again. -/
theorem reread_of_parse (h : parse text = .ok s) :
    (parse s.render).mapError SyntaxError.content = s.secondReading ∧
      ∀ s₂, parse s.render = .ok s₂ → parse s₂.render = .ok s₂ := by
  obtain ⟨hnamed, hq⟩ := isNamed_of_parse h
  have hsecond := reread_eq hnamed hq
  refine ⟨hsecond, fun s₂ h₂ => ?_⟩
  have hs₂ : s₂.IsStable :=
    isStable_of_secondReading hnamed hq (hsecond.symm.trans (mapError_eq_ok_iff.2 h₂))
  have hthird := reread_eq hs₂.named hs₂.quote_not_mem
  rw [hs₂.secondReading_eq] at hthird
  exact mapError_eq_ok_iff.1 hthird

/-- A quoted condition right behind its keyword, which it is glued to when it is written. -/
theorem reread_of_parse_glued :
    parse "select a.b, from t where'x  y' = 1" = .ok ⟨[⟨some "a", "b"⟩], ["t"], "x  y = 1"⟩ ∧
      (parse (render ⟨[⟨some "a", "b"⟩], ["t"], "x  y = 1"⟩)).mapError SyntaxError.content
        = .error ("expected comma", .word "WHEREx") := by
  have hparse : parse "select a.b, from t where'x  y' = 1"
      = .ok ⟨[⟨some "a", "b"⟩], ["t"], "x  y = 1"⟩ := by decide +kernel
  refine ⟨hparse, (reread_of_parse hparse).1.trans ?_⟩
  rfl

end Statement

end SelectQuery
