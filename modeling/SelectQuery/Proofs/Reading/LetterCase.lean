import SelectQuery.Proofs.Reading.Log
import SelectQuery.Proofs.Scan.LetterCase

/-!
# Reading without regard to case

The case of the letters in a query does not matter to its reading: a text in small letters is read as the
text itself is, to the same statement in small letters, or to the same error about the same token. Each
token moves both readings alike (`Progress.accept_lower`), and so do all of them (`Progress.run_lower`).

The three keywords that open the clauses go further. How they are written, in which case or with which
other characters of that upper-case form, does not show in the result at all
(`Progress.run_capitalized`).
-/

namespace SelectQuery

open Text

/-! ## Small letters -/

def Column.lower (c : Column) : Column := ⟨c.table.map asciiLower, asciiLower c.name⟩

def Statement.lower (s : Statement) : Statement :=
  ⟨s.columns.map Column.lower, s.tables.map asciiLower, asciiLower s.condition⟩

def SyntaxError.lower (e : SyntaxError) : SyntaxError := { e with found := e.found.lower }

def Statement.lowerResult : Except SyntaxError Statement → Except SyntaxError Statement
  | .ok s => .ok s.lower
  | .error e => .error e.lower

/-- The place with the name that is still to be put into a list in small letters. -/
def Place.lower : Place → Place
  | .afterName name => .afterName (asciiLower name)
  | .afterDot name => .afterDot (asciiLower name)
  | place => place

namespace Token

theorem conditionText_lower (t : Token) : t.lower.conditionText = asciiLower t.conditionText := by
  cases t with
  | whitespace => decide
  | word | quoted | keyword => rfl
  | operator op => exact literal_lower (.operator op)
  | _ => decide

theorem lower_eq_whitespace_iff {t : Token} : t.lower = .whitespace ↔ t = .whitespace := by
  cases t <;> simp [lower]

theorem significant_map_lower (ts : List Token) :
    significant (ts.map lower) = (significant ts).map lower := by
  simp [significant, List.filter_map, Function.comp_def, lower_eq_whitespace_iff]

end Token

namespace Progress

def lower : Progress → Progress
  | .lists cs tables place => .lists (cs.map Column.lower) (tables.map asciiLower) place.lower
  | .condition cs tables text =>
    .condition (cs.map Column.lower) (tables.map asciiLower) (asciiLower text)
  | .failed cs tables place found =>
    .failed (cs.map Column.lower) (tables.map asciiLower) place.lower found.lower

variable {p : Progress} {cs : List Column} {tables : List String} {place : Place} {t : Token}
  {ts : List Token}

/-- **A token in small letters moves the reading alike.** -/
theorem accept_lower (p : Progress) (t : Token) :
    p.lower.accept t.lower = (p.accept t).lower := by
  generalize hq : p.accept t = q
  cases accept_cases hq with
  | nameComma | nameFrom | qualifiedName | tableName =>
    simp [lower, Place.lower, Token.lower, accept, Column.lower]
  | @misfit cs tables place t h =>
    have hfailed := h (cs.map Column.lower) (tables.map asciiLower)
    cases t with
    | keyword k text => cases place <;> cases k <;> first | rfl | cases hfailed
    | _ => cases place <;> first | rfl | cases hfailed
  | condition => simp [lower, accept, Token.conditionText_lower, asciiLower_append]
  | _ => rfl

theorem skips_lower (p : Progress) (t : Token) : p.lower.skips t.lower = p.skips t := by
  cases p <;> cases t <;> rfl

theorem step_lower (p : Progress) (t : Token) : p.lower.step t.lower = (p.step t).lower := by
  rw [step, step, skips_lower, accept_lower]
  split <;> rfl

/-- **Tokens in small letters** lead to the same progress in small letters. -/
theorem run_lower (p : Progress) (ts : List Token) :
    p.lower.run (ts.map Token.lower) = (p.run ts).lower := by
  induction ts generalizing p with
  | nil => rfl
  | cons t ts ih => rw [List.map_cons, run_cons, run_cons, step_lower, ih]

theorem close_lower (p : Progress) : p.lower.close = p.close.lower := by
  cases p with
  | lists cs tables place => cases place with
    | afterName name => simp [lower, Place.lower, close, Column.lower]
    | _ => rfl
  | condition | failed => rfl

theorem result_lower (p : Progress) : p.lower.result = Statement.lowerResult p.result := by
  cases p with
  | lists cs tables place => rfl
  | condition cs tables text => rfl
  | failed cs tables place found => cases place <;> rfl

theorem outcome_lower (p : Progress) : p.lower.outcome = Statement.lowerResult p.outcome := by
  rw [outcome, close_lower, result_lower]
  rfl

end Progress

/-! ## Keywords in capital letters -/

namespace Automaton

/-- The token, in capital letters if it is a keyword. -/
def capital : Token → Token
  | .keyword k _ => .keyword k k.spelling
  | t => t

/-- The tokens with the keywords that open a clause in capital letters. These are the keywords that the
automaton has a move for, up to the one where it stops. -/
def capitalized : State → List Token → List Token
  | _, [] => []
  | q, t :: ts =>
    if t = .whitespace then t :: capitalized q ts
    else
      match q.move t with
      | .goto next => capital t :: capitalized next ts
      | .accept => capital t :: ts
      | .reject => t :: ts

theorem move_lower (q : State) (t : Token) : q.move t.lower = q.move t := by
  cases t with
  | keyword k text => cases q <;> cases k <;> rfl
  | _ => cases q <;> rfl

theorem beforeRejection_map_lower (q : State) (ts : List Token) :
    beforeRejection q (ts.map Token.lower) = (beforeRejection q ts).map Token.lower := by
  induction ts generalizing q with
  | nil => rfl
  | cons t ts ih =>
    rw [List.map_cons, beforeRejection, beforeRejection, move_lower]
    split
    · rw [ih, List.map_cons]
    · rfl
    · rfl

end Automaton

namespace Progress

open Automaton

variable {cs : List Column} {tables : List String} {place : Place} {t : Token} {ts : List Token}

theorem accept_capital (h : place.state.move t ≠ .reject) :
    (lists cs tables place).accept (capital t) = (lists cs tables place).accept t := by
  cases t with
  | keyword k text => cases place <;> cases k <;> first | rfl | exact absurd rfl h
  | _ => rfl

/-- **The keywords that open a clause** may be written in any way. -/
theorem run_capitalized (hts : ∀ t ∈ ts, t ≠ .eof) :
    (lists cs tables place).run (capitalized place.state ts) = (lists cs tables place).run ts := by
  have hcapital : ∀ {t}, t ≠ .whitespace → capital t ≠ .whitespace := by
    intro t ht
    cases t <;> simp_all [capital]
  refine lists_induction ?nil ?blank ?goto ?accept ?reject cs tables place ts hts
  case nil => exact fun cs tables place => rfl
  case blank => exact fun cs tables place ts ih => ih
  case goto =>
    intro cs tables place t ts cs' tables' place' hblank hmove hstep ih
    rw [step_of_ne_whitespace hblank] at hstep
    rw [capitalized, if_neg hblank, hmove, run_cons, step_of_ne_whitespace (hcapital hblank),
      accept_capital (by simp [hmove]), hstep, run_cons, step_of_ne_whitespace hblank, hstep]
    exact ih
  case accept =>
    intro cs tables place t ts cs' tables' text hblank hmove hstep
    rw [capitalized, if_neg hblank, hmove, run_cons, step_of_ne_whitespace (hcapital hblank),
      accept_capital (by simp [hmove]), run_cons, step_of_ne_whitespace hblank]
  case reject =>
    intro cs tables place t ts cs' tables' hblank hmove hstep
    rw [capitalized, if_neg hblank, hmove]

end Progress

namespace Statement

open Automaton Token

theorem parse_asciiLower (text : String) : parse (asciiLower text) = lowerResult (parse text) := by
  have hinitial : Progress.initial = Progress.initial.lower := rfl
  rw [parse_eq, parse_eq, scan_asciiLower, ← Progress.outcome_lower, ← Progress.run_lower, ← hinitial]

theorem beforeFailure_asciiLower (text : String) :
    beforeFailure (asciiLower text) = (beforeFailure text).map Token.lower := by
  have htokens : significant ((scan text).map Token.lower) ++ [Token.eof] =
      (significant (scan text) ++ [Token.eof]).map Token.lower := by
    rw [significant_map_lower, List.map_append]
    rfl
  rw [beforeFailure, scan_asciiLower, htokens, beforeRejection_map_lower]
  rfl

theorem parse_eq_of_capitalized {text text' : String}
    (h : capitalized .start (scan text') = capitalized .start (scan text)) :
    parse text' = parse text := by
  have hrun : ∀ text, Progress.initial.run (capitalized .start (scan text)) =
      Progress.initial.run (scan text) :=
    fun text => Progress.run_capitalized fun t ht => ne_eof_of_mem_scanChars ht
  rw [parse_eq, parse_eq, ← hrun, h, hrun]

theorem same_of_asciiLower_eq {text text' : String} (h : asciiLower text' = asciiLower text) :
    (∃ s s', parse text = .ok s ∧ parse text' = .ok s' ∧ s'.lower = s.lower) ∨
      ∃ e e', parse text = .error e ∧ parse text' = .error e' ∧ e'.expectation = e.expectation ∧
        e'.found.lower = e.found.lower ∧
        (beforeFailure text').length = (beforeFailure text).length := by
  have hresult : lowerResult (parse text') = lowerResult (parse text) := by
    rw [← parse_asciiLower, h, parse_asciiLower]
  have hbefore : (beforeFailure text').map Token.lower = (beforeFailure text).map Token.lower := by
    rw [← beforeFailure_asciiLower, h, beforeFailure_asciiLower]
  cases hparse : parse text with
  | ok s =>
    cases hparse' : parse text' with
    | ok s' =>
      rw [hparse, hparse'] at hresult
      exact .inl ⟨s, s', rfl, rfl, Except.ok.inj hresult⟩
    | error e' =>
      rw [hparse, hparse'] at hresult
      cases hresult
  | error e =>
    cases hparse' : parse text' with
    | ok s' =>
      rw [hparse, hparse'] at hresult
      cases hresult
    | error e' =>
      rw [hparse, hparse'] at hresult
      obtain ⟨hexpectation, hfound⟩ := SyntaxError.mk.inj (Except.error.inj hresult)
      refine .inr ⟨e, e', rfl, rfl, hexpectation, hfound, ?_⟩
      simpa using congrArg List.length hbefore

/-- **Reading does not regard the case of letters.** A text in small letters gives what the text gives, in
small letters. So two texts with the same letters are both read, to statements with the same letters, or
they both fail, with the same expectation at the same token. How the keywords that open a clause are written
does not show in the result at all. -/
theorem parse_letterCase (text : String) :
    parse (asciiLower text) = lowerResult (parse text) ∧
      ∀ text',
        (asciiLower text' = asciiLower text →
          (∃ s s', parse text = .ok s ∧ parse text' = .ok s' ∧ s'.lower = s.lower) ∨
            ∃ e e', parse text = .error e ∧ parse text' = .error e' ∧
              e'.expectation = e.expectation ∧ e'.found.lower = e.found.lower ∧
              (beforeFailure text').length = (beforeFailure text).length) ∧
        (capitalized .start (scan text') = capitalized .start (scan text) →
          parse text' = parse text) :=
  ⟨parse_asciiLower text, fun _ => ⟨same_of_asciiLower_eq, parse_eq_of_capitalized⟩⟩

/-- Two ways to write a text that fails at its last name, and two ways to write the keywords of a text, one
of them with a character that is no ASCII letter. -/
theorem parse_letterCase_keywords :
    (∃ e e', parse "SELECT t.A b" = .error e ∧ parse "select T.a B" = .error e' ∧
        e'.expectation = e.expectation ∧ e'.found.lower = e.found.lower ∧
        (beforeFailure "select T.a B").length = (beforeFailure "SELECT t.A b").length) ∧
      parse "ſelect A fRom T wHere from" = parse "SELECT A FROM T WHERE from" := by
  have hfailed : parse "SELECT t.A b" = .error ⟨.commaAfterQualified, .word "b"⟩ := by decide +kernel
  refine ⟨?_, ((parse_letterCase _).2 _).2 (by decide +kernel)⟩
  refine (((parse_letterCase _).2 _).1 (by decide +kernel)).resolve_left ?_
  rintro ⟨s, s', hs, -⟩
  rw [hfailed] at hs
  cases hs

end Statement

end SelectQuery
