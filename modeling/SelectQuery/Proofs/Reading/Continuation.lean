import SelectQuery.Proofs.Reading.Simulation
import SelectQuery.Proofs.Scan.Append

/-!
# Texts that can be gone on with

An error at the end of the input tells that something is missing there, and any other error tells that
something is wrong already. This is exact: a text that is read, or that fails at its end, can be gone
on with, and no text that fails earlier can.

The reason is that the reading has failed, or has not, before the end is met (`Progress.isFailed`).
A failure stays whatever follows, and from every other place there is a way to the end. Only a quote
without a partner lets a longer text change a token that has been cut. That token is quoted text
before and after, which fits nowhere in the lists and everywhere in the condition.
-/

namespace SelectQuery

namespace Progress

def isFailed : Progress → Bool
  | .failed _ _ _ _ => true
  | _ => false

variable {p : Progress} {cs : List Column} {tables : List String} {place : Place}
  {ts : List Token}

theorem isFailed_iff : p.isFailed = true ↔
    ∃ cs tables place found, p = failed cs tables place found := by
  cases p <;> simp [isFailed]

theorem isFailed_run (h : p.isFailed = true) : p.run ts = p := by
  obtain ⟨cs, tables, place, found, rfl⟩ := isFailed_iff.1 h
  exact run_failed

theorem outcome_ne_ok_of_isFailed {s : Statement} (h : p.isFailed = true) :
    p.outcome ≠ .ok s := by
  obtain ⟨cs, tables, place, found, rfl⟩ := isFailed_iff.1 h
  exact nofun

/-- Without a failure, the end of the input is the only token that may not fit. -/
theorem outcome_of_not_isFailed (h : p.isFailed = false) :
    (∃ s, p.outcome = .ok s) ∨ ∃ e, p.outcome = .error e ∧ e.found = .eof := by
  cases p with
  | lists cs tables place =>
    cases place with
    | start | afterDot | afterQualified => exact .inr ⟨_, rfl, rfl⟩
    | column | afterName | table | afterTable => exact .inl ⟨_, rfl⟩
  | condition cs tables text => exact .inl ⟨_, rfl⟩
  | failed => cases h

theorem isFailed_step_quoted {quoted : String} :
    ((lists cs tables place).step (.quoted quoted)).isFailed = true := by
  rw [step_quoted]
  rfl

/-- Behind quoted text, a failure does not depend on that text, nor on what follows it. -/
theorem isFailed_run_quoted (p : Progress) (quoted : String) (us : List Token) :
    (p.run (.quoted quoted :: us)).isFailed = (p.step (.quoted "")).isFailed := by
  rw [run_cons]
  cases p with
  | lists cs tables place => rw [isFailed_run isFailed_step_quoted, isFailed_step_quoted,
      isFailed_step_quoted]
  | condition cs tables cond =>
    rw [step_condition, run_condition]
    rfl
  | failed cs tables place found => rw [step_failed, run_failed, step_failed]

/-- Quoted text that fits is part of the condition, and so the reading may end behind it. -/
theorem outcome_run_quoted {quoted : String} (h : (p.run [.quoted quoted]).isFailed = false) :
    ∃ s, (p.run [.quoted quoted]).outcome = .ok s := by
  cases p with
  | lists cs tables place =>
    rw [run_cons, run_nil, isFailed_step_quoted] at h
    cases h
  | condition cs tables cond =>
    rw [run_condition]
    exact ⟨_, rfl⟩
  | failed cs tables place found =>
    rw [run_failed] at h
    cases h

/-- **From every place in the lists there is a way to the end.** -/
theorem exists_completion (cs : List Column) (tables : List String) (place : Place) :
    ∃ rest s, ((lists cs tables place).run (Token.scanChars rest)).outcome = .ok s := by
  have hselect : Token.scanChars "SELECT".toList = [.keyword .select "SELECT"] := by decide +kernel
  have hname : Token.scanChars "id,".toList = [.word "id", .comma] := by decide +kernel
  have hcomma : Token.scanChars ",".toList = [.comma] := by decide +kernel
  cases place with
  | start => exact ⟨"SELECT".toList, _, by rw [hselect]; rfl⟩
  | afterDot table => exact ⟨"id,".toList, _, by rw [hname]; rfl⟩
  | afterQualified => exact ⟨",".toList, _, by rw [hcomma]; rfl⟩
  | column | afterName | table | afterTable =>
    exact ⟨[], _, by rw [Token.scanChars_nil]; rfl⟩

/-! ## A text and more text behind a blank -/

variable {text : List Char}

/-- With its quotes in pairs, a text keeps its tokens in front of a blank and more text. What is
behind them is, up to blanks, the tokens of that text. -/
theorem exists_scanChars_append (heven : Even (text.count '\'')) {c : Char} (hc : isBlank c = true)
    (rest : List Char) :
    ∃ us, Token.scanChars (text ++ c :: rest) = Token.scanChars text ++ us ∧
      ∀ cs tables place, (lists cs tables place).run us =
        (lists cs tables place).run (Token.scanChars rest) := by
  -- behind a blank, the blank between the texts is part of a run that the first text has begun
  by_cases hlast : ∃ a ∈ text.getLast?, isBlank a = true
  · refine ⟨_, Token.scanChars_append_blank heven hlast, fun cs tables place => ?_⟩
    rw [run_scanChars_dropWhile, run_scanChars_blank hc]
  · have hapart : Token.Apart text (c :: rest) :=
      Token.apart_of_blank hc fun a ha => by simpa using fun hblank => hlast ⟨a, ha, hblank⟩
    refine ⟨_, Token.scanChars_append heven hapart, fun cs tables place => ?_⟩
    exact run_scanChars_blank hc rest

/-- **A failure stays a failure**, whatever follows behind a blank, and it is the same one if the text
has its quotes in pairs. -/
theorem run_append_of_isFailed (heven : Even (text.count '\''))
    (h : (initial.run (Token.scanChars text)).isFailed = true) (rest : List Char) :
    initial.run (Token.scanChars (text ++ ' ' :: rest)) = initial.run (Token.scanChars text) := by
  obtain ⟨us, hscan, -⟩ := exists_scanChars_append heven isBlank_space rest
  rw [hscan, run_append, isFailed_run h]

/-- **A text without a failure can be gone on with.** -/
theorem exists_append_of_not_isFailed (heven : Even (text.count '\''))
    (h : (initial.run (Token.scanChars text)).isFailed = false) :
    ∃ rest s, (initial.run (Token.scanChars (text ++ ' ' :: rest))).outcome = .ok s := by
  cases hp : initial.run (Token.scanChars text) with
  | lists cs tables place =>
    obtain ⟨rest, s, hrest⟩ := exists_completion cs tables place
    obtain ⟨us, hscan, hus⟩ := exists_scanChars_append heven isBlank_space rest
    refine ⟨rest, s, ?_⟩
    rw [hscan, run_append, hp, hus, hrest]
  | condition cs tables cond =>
    obtain ⟨us, hscan, -⟩ := exists_scanChars_append heven isBlank_space []
    refine ⟨[], ⟨cs, tables, cond ++ Statement.conditionOf us⟩, ?_⟩
    rw [hscan, run_append, hp, run_condition]
    rfl
  | failed cs tables place found =>
    rw [hp] at h
    cases h

/-- **With a quote that has no partner, it is decided in front of it** whether the text fails, whatever
follows. -/
theorem isFailed_run_append_of_odd (hodd : ¬Even (text.count '\'')) (rest : List Char) :
    (initial.run (Token.scanChars (text ++ rest))).isFailed =
      (initial.run (Token.scanChars text)).isFailed := by
  obtain ⟨ts, q, -, hscan, happend⟩ := Token.scanChars_append_unclosed hodd
  -- the token that the quote opens is quoted text, with or without the rest
  obtain ⟨quoted, us, hquoted⟩ : ∃ quoted us,
      Token.scanChars ('\'' :: (q ++ rest)) = .quoted quoted :: us :=
    ⟨_, _, Token.scanChars_of_ne_nil (by simp)⟩
  rw [hscan, happend, hquoted, run_append, run_append, isFailed_run_quoted, isFailed_run_quoted]

/-- A text with a quote that has no partner is read, unless it fails in front of its end. -/
theorem outcome_of_odd (hodd : ¬Even (text.count '\''))
    (h : (initial.run (Token.scanChars text)).isFailed = false) :
    ∃ s, (initial.run (Token.scanChars text)).outcome = .ok s := by
  obtain ⟨ts, q, -, hscan, -⟩ := Token.scanChars_append_unclosed hodd
  rw [hscan, run_append] at h ⊢
  exact outcome_run_quoted h

end Progress

namespace Statement

theorem parse_or_eof_iff {text : String} :
    ((∃ s, parse text = .ok s) ∨ ∃ e, parse text = .error e ∧ e.found = .eof) ↔
      (Progress.initial.run (Token.scan text)).isFailed = false := by
  rw [parse_eq]
  refine ⟨fun h => ?_, Progress.outcome_of_not_isFailed⟩
  by_contra hfailed
  rw [Bool.not_eq_false] at hfailed
  rcases h with ⟨s, hs⟩ | ⟨e, he, heof⟩
  · exact Progress.outcome_ne_ok_of_isFailed hfailed hs
  · obtain ⟨cs, tables, place, found, hp⟩ := Progress.isFailed_iff.1 hfailed
    rw [hp] at he
    cases he
    rcases Progress.found_of_run_failed hp with hmem | hinitial
    · exact Token.ne_eof_of_mem_scanChars hmem heof
    · cases hinitial

theorem scan_append_space (text more : String) :
    Token.scan (text ++ " " ++ more) = Token.scanChars (text.toList ++ ' ' :: more.toList) := by
  rw [Token.scan]
  simp

theorem exists_parse_append_iff {text : String} :
    (∃ more s, parse (text ++ " " ++ more) = .ok s) ↔
      (Progress.initial.run (Token.scan text)).isFailed = false := by
  constructor
  · rintro ⟨more, s, hs⟩
    by_contra hfailed
    rw [Bool.not_eq_false] at hfailed
    rw [parse_eq, scan_append_space] at hs
    refine Progress.outcome_ne_ok_of_isFailed ?_ hs
    by_cases heven : Even (text.toList.count '\'')
    · rwa [Progress.run_append_of_isFailed heven hfailed]
    · rwa [Progress.isFailed_run_append_of_odd heven]
  · intro h
    by_cases heven : Even (text.toList.count '\'')
    · obtain ⟨rest, s, hs⟩ := Progress.exists_append_of_not_isFailed heven h
      refine ⟨String.ofList rest, s, ?_⟩
      rwa [parse_eq, scan_append_space, String.toList_ofList]
    · have hodd : ¬Even ((text.toList ++ [' ']).count '\'') := by simpa using heven
      have hblank := Progress.isFailed_run_append_of_odd heven [' ']
      obtain ⟨s, hs⟩ := Progress.outcome_of_odd hodd (hblank.trans h)
      refine ⟨"", s, ?_⟩
      rwa [parse_eq, scan_append_space]

theorem parse_append_of_error {text : String} {e : SyntaxError}
    (heven : Even (text.toList.count '\'')) (he : parse text = .error e) (hfound : e.found ≠ .eof)
    (more : String) : parse (text ++ " " ++ more) = .error e := by
  have hfailed : (Progress.initial.run (Token.scan text)).isFailed = true := by
    by_contra h
    rw [Bool.not_eq_true] at h
    rcases parse_or_eof_iff.2 h with ⟨s, hs⟩ | ⟨e', he', heof⟩
    · rw [hs] at he
      cases he
    · rw [he'] at he
      cases he
      exact hfound heof
  rw [parse_eq, scan_append_space, Progress.run_append_of_isFailed heven hfailed]
  exact (parse_eq text).symm.trans he

/-- **Texts that can be gone on with** behind a blank are those that are read and those that fail at
their end. Every other failure of a text that has its quotes in pairs stays as it is, whatever
follows. -/
theorem parse_append_iff (text : String) :
    ((∃ more s, parse (text ++ " " ++ more) = .ok s) ↔
        (∃ s, parse text = .ok s) ∨ ∃ e, parse text = .error e ∧ e.found = .eof) ∧
      ∀ e, Even (text.toList.count '\'') → parse text = .error e → e.found ≠ .eof →
        ∀ more, parse (text ++ " " ++ more) = .error e := by
  refine ⟨exists_parse_append_iff.trans parse_or_eof_iff.symm, fun e heven he hfound more => ?_⟩
  exact parse_append_of_error heven he hfound more

/-- A second name behind a first one stays wrong, also with a comma behind it. -/
theorem parse_append_second_name :
    parse ("select a b" ++ " " ++ ", c") = .error ⟨.dotAfterName, .word "b"⟩ :=
  (parse_append_iff "select a b").2 _ (by decide) (by decide +kernel) (by decide) ", c"

end Statement

end SelectQuery
