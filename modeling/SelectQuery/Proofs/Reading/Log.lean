import SelectQuery.Proofs.Reading.Automaton
import SelectQuery.Proofs.Reading.Clauses

/-!
# The log of a reading

Each event of a reading is a record in the log. For a text that is read, the log can be told from the
statement and from the clauses that were entered (`Statement.logOf`). For a text that fails, it tells
of nothing that is not there: whatever is read of a text that starts with the same tokens, up to the one
that did not fit, has the same records in front (`Statement.log_faithful`).

The second half rests on two facts about the events. They only ever grow with the tokens, and the token
that does not fit adds none, so that the events of a failure are those of the tokens in front of it.
-/

namespace SelectQuery

namespace Statement

/-- The log of a statement: each clause that is entered, the columns and the tables in their order, and
the completion at the end. -/
def logOf (s : Statement) (tables condition : Prop) [Decidable tables] [Decidable condition] :
    List LogRecord :=
  ⟨.trace, "entering phase", [("phase", .text "Select")]⟩ ::
    s.columns.map (fun c => ⟨.trace, "select item", [("item", .text c.render)]⟩) ++
    (if tables then
      ⟨.trace, "entering phase", [("phase", .text "From")]⟩ ::
        s.tables.map (fun table => ⟨.trace, "from table", [("table", .text table)]⟩)
    else []) ++
    (if condition then [⟨.trace, "entering phase", [("phase", .text "Where")]⟩] else []) ++
    [⟨.debug, "parsed select statement", [("columns", .count s.columns.length),
      ("tables", .count s.tables.length), ("has_where", .flag (s.condition ≠ ""))]⟩]

end Statement

/-! ## The tokens in front of a failure -/

namespace Automaton

/-- The tokens in front of the first one that the automaton has no move for. -/
def beforeRejection : State → List Token → List Token
  | _, [] => []
  | q, t :: ts =>
    match q.move t with
    | .goto next => t :: beforeRejection next ts
    | .accept | .reject => []

end Automaton

/-- The tokens of a text in front of the one that does not fit, without the blanks among them. -/
def Token.beforeFailure (text : String) : List Token :=
  Automaton.beforeRejection .start (Token.significant (Token.scan text) ++ [.eof])

namespace Progress

open Automaton

variable {p : Progress} {cs : List Column} {tables : List String} {place : Place}
  {ts : List Token} {e : SyntaxError}

/-- **The events of a failure** are those of the tokens in front of it. -/
theorem events_of_failure (hts : ∀ t ∈ ts, t ≠ .eof)
    (h : ((lists cs tables place).run ts).outcome = .error e) :
    (∃ after, Token.significant ts ++ [.eof] =
        beforeRejection place.state (Token.significant ts ++ [.eof]) ++ e.found :: after) ∧
      ((lists cs tables place).run ts).close.events = ((lists cs tables place).run
        (beforeRejection place.state (Token.significant ts ++ [.eof]))).events := by
  revert h
  refine lists_induction ?nil ?blank ?goto ?accept ?reject cs tables place ts hts
  case nil =>
    intro cs tables place h
    cases place with
    | start | afterDot | afterQualified =>
      cases h
      exact ⟨⟨[], rfl⟩, rfl⟩
    | column | afterName | table | afterTable => cases h
  case blank => exact fun cs tables place ts ih => ih
  case goto =>
    intro cs tables place t ts cs' tables' place' hblank hmove hstep ih h
    rw [run_cons, hstep] at h ⊢
    rw [Token.significant_cons hblank, List.cons_append, beforeRejection, hmove]
    obtain ⟨⟨after, hafter⟩, hevents⟩ := ih h
    exact ⟨⟨after, congrArg (t :: ·) hafter⟩, by rw [hevents, run_cons, hstep]⟩
  case accept =>
    intro cs tables place t ts cs' tables' text hblank hmove hstep h
    rw [run_cons, hstep, run_condition] at h
    cases h
  case reject =>
    intro cs tables place t ts cs' tables' hblank hmove hstep h
    have hevents := events_of_step_failed hstep
    rw [hstep] at hevents
    rw [run_cons, hstep, run_failed] at h ⊢
    rw [Token.significant_cons hblank, List.cons_append, beforeRejection, hmove]
    cases h
    exact ⟨⟨Token.significant ts ++ [.eof], rfl⟩, hevents⟩

theorem events_close_of_ok {s : Statement} (h : p.outcome = .ok s) :
    p.close.events = .entering .select :: s.columns.map .column ++
      (if .entering .from ∈ p.events then .entering .from :: s.tables.map .table else []) ++
      (if .entering .where ∈ p.events then [.entering .where] else []) := by
  cases p with
  | lists cs tables place =>
    cases place with
    | start | afterDot | afterQualified => cases h
    | column | afterName | table | afterTable =>
      cases h
      simp [close, events, Place.clause]
  | condition cs tables text =>
    cases h
    simp [close, events]
  | failed => cases h

theorem level_of_mem_events {ev : Event} (h : ev ∈ p.events) : ev.level = .trace := by
  cases ev with
  | complete columns tables hasCondition =>
    unfold events at h
    split at h
    split at h <;> simp at h
  | _ => rfl

end Progress

namespace Statement

open Token

variable {text text' : String} {s : Statement} {e : SyntaxError}

theorem events_read (text : String) : (read (.ofString text)).events =
    (Progress.initial.run (scan text)).close.events ++
      (match parse text with
        | .ok s => [.ofStatement s]
        | .error _ => []) := by
  rw [read_ofString, parse_eq, Progress.reading, Reading.after]
  cases (Progress.initial.run (scan text)).outcome <;> rfl

/-- **The log of a text that is read**, record by record. -/
theorem log_of_ok (h : parse text = .ok s) :
    log text = s.logOf (EntersTables (scan text)) (EntersCondition (scan text)) := by
  have hevents := Progress.events_close_of_ok ((parse_eq text).symm.trans h)
  simp only [← Progress.entersTables_iff, ← Progress.entersCondition_iff] at hevents
  have hflag : (s.condition != "") = decide (s.condition ≠ "") := by grind
  rw [log, events_read, h, hevents, logOf, ← hflag]
  simp only [List.map_append, List.map_cons, List.map_map]
  split <;> split <;> simp only [List.map_nil, List.map_cons, List.map_map] <;> rfl

/-- The failure of a text: the token in it that does not fit, and the tokens in front of that one, which
alone have events. -/
theorem stops_of_error (h : parse text = .error e) :
    (∃ after, significant (scan text) ++ [.eof] = beforeFailure text ++ e.found :: after) ∧
      (Progress.initial.run (scan text)).close.events =
        (Progress.initial.run (beforeFailure text)).events := by
  rw [parse_eq] at h
  exact Progress.events_of_failure (fun t ht => ne_eof_of_mem_scanChars ht) h

/-- **The log of a text that fails** is in front of the log of each text that starts with the same
tokens up to the failure. -/
theorem log_prefix_of_error (h : parse text = .error e)
    (htokens : beforeFailure text <+: significant (scan text')) : log text <+: log text' := by
  obtain ⟨us, hus⟩ := htokens
  have hfailed : (read (.ofString text)).events
      = (Progress.initial.run (beforeFailure text)).events := by
    rw [events_read, h, List.append_nil, (stops_of_error h).2]
  have hgrown : (Progress.initial.run (beforeFailure text)).events <+:
      (Progress.initial.run (scan text')).events := by
    rw [← Progress.events_run_significant _ (scan text'), ← hus, Progress.run_append]
    exact Progress.events_prefix_run _ us
  rw [log, log, hfailed, events_read text']
  refine .map Event.record (hgrown.trans ?_)
  exact (Progress.events_prefix_close _).trans (List.prefix_append _ _)

theorem level_of_mem_log (h : parse text = .error e) :
    ∀ r ∈ log text, r.level = .trace := by
  rw [log, events_read, h, List.append_nil]
  intro r hr
  obtain ⟨ev, hev, rfl⟩ := List.mem_map.1 hr
  exact Progress.level_of_mem_events hev

/-- **The log is faithful.** For a text that is read it tells the clauses that were entered, the columns
and the tables one by one, and the completion at its end. For a text that fails it tells of no completion,
and all that it tells is also told of each text that starts with the same tokens up to the failure,
whether that text is read or fails in turn. -/
theorem log_faithful (text : String) :
    (∀ s, parse text = .ok s →
        log text = s.logOf (EntersTables (scan text)) (EntersCondition (scan text))) ∧
      ∀ e, parse text = .error e →
        (∀ r ∈ log text, r.level ≠ .debug) ∧
          (∃ after, significant (scan text) ++ [.eof] = beforeFailure text ++ e.found :: after) ∧
          ∀ text', beforeFailure text <+: significant (scan text') → log text <+: log text' := by
  refine ⟨fun s h => log_of_ok h, fun e h => ⟨fun r hr => ?_, (stops_of_error h).1, fun text' => ?_⟩⟩
  · rw [level_of_mem_log h r hr]
    exact nofun
  · exact log_prefix_of_error h

/-- A column with its table is logged although no comma follows it, and so it is of any text that goes on
in another way; the name in front of it is logged at its comma. -/
theorem log_faithful_missing_comma :
    log "select a, t.b c" <+: log "select a,t . b from t where b = c" ∧
      log "select a,t . b from t where b = c" =
        logOf ⟨[⟨none, "a"⟩, ⟨some "t", "b"⟩], ["t"], " b = c"⟩
          (EntersTables (scan "select a,t . b from t where b = c"))
          (EntersCondition (scan "select a,t . b from t where b = c")) := by
  have hfailed : parse "select a, t.b c" = .error ⟨.commaAfterQualified, .word "c"⟩ := by
    decide +kernel
  have hread : parse "select a,t . b from t where b = c"
      = .ok ⟨[⟨none, "a"⟩, ⟨some "t", "b"⟩], ["t"], " b = c"⟩ := by decide +kernel
  refine ⟨((log_faithful "select a, t.b c").2 _ hfailed).2.2 _ ?_, (log_faithful _).1 _ hread⟩
  decide +kernel

end Statement

end SelectQuery
