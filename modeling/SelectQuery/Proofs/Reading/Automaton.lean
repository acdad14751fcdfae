import SelectQuery.Proofs.Reading.Grammar

/-!
# Errors and a finite automaton

Whether a text fails, where, and with which message is decided by an automaton with seven states that
runs over the tokens without the blanks among them. It keeps no columns and no tables. An error tells
the first token that the automaton has no move for and the message of the state it is in there
(`Statement.parse_error_iff_rejection`).

The automaton is in the state of the place that the reading has come to (`Place.state`), and each token
moves both alike (`Progress.agrees_accept`). It stops as soon as the condition starts, since nothing can
fail there.
-/

namespace SelectQuery

namespace Automaton

/-- A state of the automaton. -/
inductive State where
  /-- In front of everything. -/
  | start
  /-- In front of a column. -/
  | item
  /-- Behind the first name of a column. -/
  | name
  /-- Behind a dot. -/
  | dot
  /-- Behind a column with its table. -/
  | qual
  /-- In front of a table. -/
  | table
  /-- Behind a table. -/
  | sep
  deriving DecidableEq

/-- What a state does with a token. -/
inductive Move where
  /-- It goes over to another state. -/
  | goto (next : State)
  /-- Nothing that follows can fail any more. -/
  | accept
  /-- It has no use for the token. -/
  | reject
  deriving DecidableEq

/-- The moves of the automaton. -/
def State.move : State → Token → Move
  | .start, .keyword .select _ => .goto .item
  | .item, .eof => .accept
  | .item, .keyword .from _ => .goto .table
  | .item, .word _ => .goto .name
  | .name, .eof => .accept
  | .name, .comma => .goto .item
  | .name, .keyword .from _ => .goto .table
  | .name, .dot => .goto .dot
  | .dot, .word _ => .goto .qual
  | .qual, .comma => .goto .item
  | .qual, .keyword .from _ => .goto .table
  | .table, .eof => .accept
  | .table, .keyword .where _ => .accept
  | .table, .word _ => .goto .sep
  | .sep, .eof => .accept
  | .sep, .keyword .where _ => .accept
  | .sep, .comma => .goto .table
  | _, _ => .reject

/-- The message of a state about a token that it has no move for. -/
def State.message : State → String
  | .start => "expected SELECT"
  | .item => "expected column name"
  | .name => "expected '.' after name"
  | .dot => "expected column name after '.'"
  | .qual => "expected comma after table.column"
  | .table => "expected table name"
  | .sep => "expected comma"

/-- The first token that the run from a state has no move for, and the state in which it is met. -/
def rejection : State → List Token → Option (State × Token)
  | _, [] => none
  | q, t :: ts =>
    match q.move t with
    | .goto next => rejection next ts
    | .accept => none
    | .reject => some (q, t)

/-- The first token of a text that the automaton has no move for. The end of the text counts as a token,
blanks do not. -/
def rejectionOf (text : String) : Option (State × Token) :=
  rejection .start (Token.significant (Token.scan text) ++ [.eof])

variable {q q' : State} {t : Token} {ts : List Token}

theorem mem_of_rejection (h : rejection q ts = some (q', t)) : t ∈ ts := by
  induction ts generalizing q with
  | nil => cases h
  | cons u us ih =>
    rw [rejection] at h
    split at h
    · exact List.mem_cons_of_mem u (ih h)
    · cases h
    · cases h
      exact List.mem_cons_self

end Automaton

/-! ## The reading and the automaton side by side -/

def Place.state : Place → Automaton.State
  | .start => .start
  | .column => .item
  | .afterName _ => .name
  | .afterDot _ => .dot
  | .afterQualified => .qual
  | .table => .table
  | .afterTable => .sep

theorem Place.message_state (place : Place) : place.state.message = place.expectation.text := by
  cases place <;> rfl

/-- The progress `p` is what comes of a token at a place with such a move. -/
def Automaton.Move.Agrees (place : Place) (t : Token) : Automaton.Move → Progress → Prop
  | .goto next, p => ∃ cs tables place', p = .lists cs tables place' ∧ place'.state = next
  | .accept, p => ∃ cs tables text, p = .condition cs tables text
  | .reject, p => ∃ cs tables, p = .failed cs tables place t

/-- The result of a reading is a statement if nothing is rejected, and otherwise the error about what is
rejected. -/
def Automaton.Explains (x : Except SyntaxError Statement) : Option (Automaton.State × Token) → Prop
  | none => ∃ s, x = .ok s
  | some (q, t) => ∃ e, x = .error e ∧ e.expectation.text = q.message ∧ e.found = t

namespace Progress

open Automaton

variable {cs : List Column} {tables : List String} {place : Place} {t : Token} {ts : List Token}

/-- **A token moves both alike.** -/
theorem agrees_accept (cs : List Column) (tables : List String) (place : Place) (ht : t ≠ .eof) :
    (place.state.move t).Agrees place t ((lists cs tables place).accept t) := by
  generalize hq : (lists cs tables place).accept t = q
  cases accept_cases hq with
  | misfit =>
    -- a token that the state has a move for would have been accepted
    have hmove : place.state.move t = .reject := by
      cases t with
      | eof => exact absurd rfl ht
      | keyword k written => cases place <;> cases k <;> first | rfl | cases hq
      | _ => cases place <;> first | rfl | cases hq
    rw [hmove]
    exact ⟨cs, tables, rfl⟩
  | tableWhere | separatorWhere => exact ⟨_, _, _, rfl⟩
  | _ => exact ⟨_, _, _, rfl, rfl⟩

/-- **Induction along the lists**, over the tokens that are read from a place in them. A blank is left out.
Any other token moves the automaton and the reading on, takes both into the condition, or does not fit. -/
@[elab_as_elim]
theorem lists_induction {motive : List Column → List String → Place → List Token → Prop}
    (nil : ∀ cs tables place, motive cs tables place [])
    (blank : ∀ cs tables place ts, motive cs tables place ts →
      motive cs tables place (.whitespace :: ts))
    (goto : ∀ cs tables place t ts cs' tables' place', t ≠ .whitespace →
      place.state.move t = .goto place'.state →
      (lists cs tables place).step t = lists cs' tables' place' →
      motive cs' tables' place' ts → motive cs tables place (t :: ts))
    (accept : ∀ cs tables place t ts cs' tables' text, t ≠ .whitespace →
      place.state.move t = .accept →
      (lists cs tables place).step t = condition cs' tables' text → motive cs tables place (t :: ts))
    (reject : ∀ cs tables place t ts cs' tables', t ≠ .whitespace →
      place.state.move t = .reject →
      (lists cs tables place).step t = failed cs' tables' place t → motive cs tables place (t :: ts))
    (cs : List Column) (tables : List String) (place : Place) (ts : List Token)
    (hts : ∀ t ∈ ts, t ≠ .eof) : motive cs tables place ts := by
  induction ts generalizing cs tables place with
  | nil => exact nil cs tables place
  | cons t ts ih =>
    have ih' := fun cs tables place => ih cs tables place fun u hu => hts u (List.mem_cons_of_mem t hu)
    by_cases hblank : t = .whitespace
    · subst hblank
      exact blank cs tables place ts (ih' cs tables place)
    · have hagrees := agrees_accept cs tables place (hts t List.mem_cons_self)
      have hstep := step_of_ne_whitespace (p := lists cs tables place) hblank
      cases hmove : place.state.move t with
      | goto next =>
        rw [hmove] at hagrees
        obtain ⟨cs', tables', place', hp, rfl⟩ := hagrees
        exact goto cs tables place t ts cs' tables' place' hblank hmove (hstep.trans hp)
          (ih' cs' tables' place')
      | accept =>
        rw [hmove] at hagrees
        obtain ⟨cs', tables', text, hp⟩ := hagrees
        exact accept cs tables place t ts cs' tables' text hblank hmove (hstep.trans hp)
      | reject =>
        rw [hmove] at hagrees
        obtain ⟨cs', tables', hp⟩ := hagrees
        exact reject cs tables place t ts cs' tables' hblank hmove (hstep.trans hp)

theorem explains_outcome (cs : List Column) (tables : List String) (place : Place) :
    Explains (lists cs tables place).outcome (rejection place.state [.eof]) := by
  cases place with
  | start | afterDot | afterQualified => exact ⟨_, rfl, rfl, rfl⟩
  | column | afterName | table | afterTable => exact ⟨_, rfl⟩

/-- **A whole run** is explained by the automaton that runs beside it. -/
theorem explains_run (hts : ∀ t ∈ ts, t ≠ .eof) (cs : List Column) (tables : List String)
    (place : Place) :
    Explains ((lists cs tables place).run ts).outcome
      (rejection place.state (Token.significant ts ++ [.eof])) := by
  refine lists_induction ?nil ?blank ?goto ?accept ?reject cs tables place ts hts
  case nil => exact explains_outcome
  case blank => exact fun cs tables place ts ih => ih
  case goto =>
    intro cs tables place t ts cs' tables' place' hblank hmove hstep ih
    rw [run_cons, hstep, Token.significant_cons hblank, List.cons_append, rejection, hmove]
    exact ih
  case accept =>
    intro cs tables place t ts cs' tables' text hblank hmove hstep
    rw [run_cons, hstep, run_condition, Token.significant_cons hblank, List.cons_append, rejection,
      hmove]
    exact ⟨_, rfl⟩
  case reject =>
    intro cs tables place t ts cs' tables' hblank hmove hstep
    rw [run_cons, hstep, run_failed, Token.significant_cons hblank, List.cons_append, rejection, hmove]
    exact ⟨_, rfl, place.message_state.symm, rfl⟩

end Progress

namespace Statement

open Automaton

theorem explains_parse (text : String) : Explains (parse text) (rejectionOf text) := by
  rw [parse_eq]
  exact Progress.explains_run (fun t ht => Token.ne_eof_of_mem_scanChars ht) [] [] .start

example : rejectionOf "select a.b" = some (.qual, .eof) := by decide +kernel

theorem rejectionOf_ne {text : String} {q : State} {t : Token} (h : rejectionOf text = some (q, t)) :
    t ≠ .whitespace ∧ ∀ op, t ≠ .operator op := by
  rcases List.mem_append.1 (mem_of_rejection h) with ht | ht
  · obtain ⟨hscan, hblank⟩ := List.mem_filter.1 ht
    refine ⟨by simpa using hblank, ?_⟩
    rintro op rfl
    exact Token.proper_of_mem_scanChars hscan
  · rw [List.mem_singleton.1 ht]
    exact ⟨nofun, nofun⟩

/-- **A text fails just if the automaton gets stuck**, with the message of the state about the token
that it has no move for. That token is never a blank and never an operator. -/
theorem parse_error_iff_rejection (text : String) :
    ((∃ e, parse text = .error e) ↔ ∃ q t, rejectionOf text = some (q, t)) ∧
      ∀ e, parse text = .error e →
        (∃ q, rejectionOf text = some (q, e.found) ∧ e.expectation.text = q.message) ∧
          e.found ≠ .whitespace ∧ ∀ op, e.found ≠ .operator op := by
  have hexplains := explains_parse text
  cases hrejection : rejectionOf text with
  | none =>
    rw [hrejection] at hexplains
    obtain ⟨s, hs⟩ := hexplains
    simp [hs]
  | some rejected =>
    obtain ⟨q, t⟩ := rejected
    rw [hrejection] at hexplains
    obtain ⟨e, he, hmessage, rfl⟩ := hexplains
    refine ⟨⟨fun _ => ⟨q, e.found, rfl⟩, fun _ => ⟨e, he⟩⟩, fun e' he' => ?_⟩
    rw [he] at he'
    cases he'
    exact ⟨⟨q, rfl, hmessage⟩, rejectionOf_ne hrejection⟩

/-- A keyword where a column may stand, written in its own way. -/
theorem parse_error_misplaced_where :
    parse "Select a,\t wHere" = .error ⟨.columnName, .keyword .where "wHere"⟩ ∧
      ∃ q, rejectionOf "Select a,\t wHere" = some (q, .keyword .where "wHere") ∧
        "expected column name" = q.message := by
  have hparse : parse "Select a,\t wHere"
      = .error ⟨.columnName, .keyword .where "wHere"⟩ := by decide +kernel
  exact ⟨hparse, ((parse_error_iff_rejection "Select a,\t wHere").2 _ hparse).1⟩

end Statement

end SelectQuery
