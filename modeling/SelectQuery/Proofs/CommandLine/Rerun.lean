import SelectQuery.CommandLine
import SelectQuery.Proofs.RoundTrip.Reread

/-!
# Running the program on its own output

The program writes a statement in its canonical form and puts a space behind every word that it is given.
So its own output comes back with one more space at the end, and that space makes no difference
(`CommandLine.run_output`): behind the lists it is left out, and a condition from the command line already
ends with a blank, where it is squeezed. What may get lost in the canonical form is a condition without
tables, and that is lost before the output is written.

The one output that is not taken back is that of a last column with its table and no table list behind it.
-/

namespace SelectQuery

theorem squeeze_append_space {cs : List Char} (hq : '\'' ∉ cs)
    (hlast : ∃ a ∈ cs.getLast?, isBlank a = true) : squeeze (cs ++ [' ']) = squeeze cs := by
  have heven : Even (cs.count '\'') := by simp [List.count_eq_zero.2 hq]
  have hscan : Token.scanChars (cs ++ [' ']) = Token.scanChars cs := by
    rw [Token.scanChars_append_space heven,
      if_pos ((Token.getLast?_scanChars_eq_whitespace_iff heven).2 hlast), List.append_nil]
  have hcondition := congrArg Statement.conditionOf hscan
  rw [conditionOf_scanChars (by simp [hq]), conditionOf_scanChars hq] at hcondition
  exact String.ofList_injective hcondition

namespace Statement

variable {text : String} {s : Statement}

/-- A text without quotes that ends with a blank has its condition from a text of that kind, whose first
character does not belong to the keyword. -/
theorem condition_of_plain (h : parse text = .ok s) (hq : '\'' ∉ text.toList)
    (hlast : ∃ a ∈ text.toList.getLast?, isBlank a = true) :
    s.condition = "" ∨ ∃ cs, s.condition = String.ofList (squeeze cs) ∧ '\'' ∉ cs ∧
      (∃ a ∈ cs.getLast?, isBlank a = true) ∧ ∀ c ∈ cs.head?, isWordChar c = false := by
  obtain ⟨-, hnone⟩ | ⟨before, written, after, htext, hparts, hcondition⟩ := exists_parts_of_parse h
  · exact .inl hnone
  · rw [htext] at hq hlast
    simp only [List.mem_append, not_or] at hq
    refine .inr ⟨after, by rw [hcondition, unquote_eq_squeeze hq.2.2], hq.2.2, ?_,
      hparts.piece.head_of_run? rfl⟩
    by_cases hafter : after = []
    · -- the text would end with the keyword, and so not with a blank
      subst hafter
      rw [List.append_nil, List.getLast?_append_of_ne_nil _ hparts.piece.ne_nil] at hlast
      have heven : Even (written.count '\'') := by simp [List.count_eq_zero.2 hq.2.1]
      cases (hparts.piece.blanks_of_last heven hlast).1
    · rwa [List.getLast?_append_of_ne_nil _ (by simp [hafter]),
        List.getLast?_append_of_ne_nil _ hafter] at hlast

section
open Progress

theorem run_squeezedText {columns : List Column} {tables : List String} {cs : List Char}
    (hq : '\'' ∉ cs) (hlast : ∃ a ∈ cs.getLast?, isBlank a = true)
    (hhead : ∀ c ∈ cs.head?, isWordChar c = false) :
    (lists columns tables .afterTable).run
        (Token.scanChars (" WHERE".toList ++ (squeeze cs ++ [' ']))) =
      .condition columns tables (String.ofList (squeeze cs)) := by
  have hword : ∀ c ∈ (squeeze cs ++ [' ']).head?, isWordChar c = false := by
    refine Token.head_append (fun c hc => ?_) fun _ => by simp [isWordChar, isBlank]
    rw [head_squeeze] at hc
    obtain ⟨d, hd, rfl⟩ := Option.map_eq_some_iff.1 hc
    split
    · rfl
    · exact hhead d hd
  have hquote : '\'' ∉ squeeze cs ++ [' '] := by
    simpa using fun hmem => hq ((mem_of_mem_squeeze hmem).resolve_left (by decide))
  rw [run_whereText hword hquote, squeeze_squeeze_append, squeeze_append_space hq hlast]

/-- **A space behind the canonical form** changes nothing, for the statement of a text without quotes that
ends with a blank. -/
theorem parse_render_space (h : parse text = .ok s) (hq : '\'' ∉ text.toList)
    (hlast : ∃ a ∈ text.toList.getLast?, isBlank a = true) :
    parse (s.render ++ " ") =
      if s.tables = [] then
        if endsQualified s.columns then .error ⟨.commaAfterQualified, .eof⟩
        else .ok { s with condition := "" }
      else .ok s := by
  have hnamed := (isNamed_of_parse h).1
  rw [parse_eq, Token.scan, String.toList_append]
  change (initial.run (Token.scanChars (s.render.toList ++ [' ']))).outcome = _
  by_cases hnil : s.tables = []
  · obtain ⟨ds, place, hselect, -, hend⟩ :=
      run_selectPart (.mk "SELECT" (.plain (s.columns.map Column.tokens)))
    rw [run_render_append_of_nil hnamed hnil (by simp [isWordChar, isBlank]), hselect,
      run_scanChars_blank rfl, Token.scanChars_nil, run_nil, hend, if_pos hnil, hnil]
    simp
  · rw [run_render_append_of_ne_nil hnamed hnil (by simp [isWordChar, isBlank]), if_neg hnil]
    by_cases hempty : s.condition = ""
    · rw [if_pos hempty, List.nil_append, run_scanChars_blank rfl, Token.scanChars_nil, run_nil]
      exact congrArg Except.ok (congrArg (Statement.mk _ _) hempty.symm)
    · obtain ⟨cs, hcondition, hcs, hlast', hhead⟩ :=
        (condition_of_plain h hq hlast).resolve_left hempty
      have htext : s.condition.toList = squeeze cs := by rw [hcondition, String.toList_ofList]
      rw [if_neg hempty, List.append_assoc, htext, run_squeezedText hcs hlast' hhead, ← hcondition]
      rfl

end

end Statement

namespace CommandLine

variable {args words : List String} {s : Statement}

theorem toList_queryText (words : List String) :
    (queryText words).toList = words.flatMap fun word => word.toList ++ [' '] := by
  simp [queryText, List.flatMap, Function.comp_def]

theorem quote_not_mem_queryText (h : ∀ word ∈ words, '\'' ∉ word.toList) :
    '\'' ∉ (queryText words).toList := by
  rw [toList_queryText, List.mem_flatMap]
  rintro ⟨word, hword, hq⟩
  exact h word hword (by simpa using hq)

theorem getLast_queryText (h : words ≠ []) :
    ∃ a ∈ (queryText words).toList.getLast?, isBlank a = true := by
  obtain ⟨words, word, rfl⟩ := (List.eq_nil_or_concat words).resolve_left h
  refine ⟨' ', ?_, isBlank_space⟩
  rw [toList_queryText, List.concat_eq_append, List.flatMap_append]
  simp

theorem head_render (s : Statement) : s.render.toList.head? ≠ some '-' := by
  simp [Statement.render]

theorem render_of_nil (hnil : s.tables = []) :
    Statement.render { s with condition := "" } = s.render := by
  simp [Statement.render, hnil]

namespace Host

variable {host : Host} {filter : Filter}

/-- On any host, a run with nothing asked for finds a filter, and one that keeps the log empty unless the
surroundings have set another. -/
theorem exists_filter (h : FilterSpec host.readFilter) :
    ∃ filter, host.filter defaultLevel = .ok filter ∧
      (host.logVariable = none → ∀ record, filter record = false) := by
  obtain ⟨quiet, hquiet, hsilent⟩ := h.default
  unfold Host.filter
  cases host.logVariable with
  | none => exact ⟨quiet, hquiet, fun _ => hsilent⟩
  | some description =>
    cases hread : host.readFilter description with
    | ok filter => exact ⟨filter, by simp [hread], nofun⟩
    | error e => exact ⟨quiet, by simpa [hread] using hquiet, nofun⟩

theorem log_of_silent (h : ∀ record, filter record = false) (query : String) :
    host.log filter query = "" := by
  have hnone : (records query).filter filter = [] :=
    List.filter_eq_nil_iff.2 fun record _ => by simp [h record]
  rw [log, hnone]
  rfl

theorem run_words (hreader : ReaderSpec host.readArguments) (hfilter : host.filter defaultLevel = .ok filter)
    (hne : words ≠ []) (hwords : ∀ word ∈ words, word.toList.head? ≠ some '-') :
    host.run words = host.runQuery filter .text (queryText words) := by
  simp only [run, hreader.words words hwords, Request.ofWords, hfilter, if_neg hne]

theorem exists_of_code_eq_zero {format : Format} {level : String}
    (hargs : host.readArguments args = .ok ⟨format, level, words⟩) (hcode : (host.run args).code = 0) :
    ∃ s, Statement.parse (queryText words) = .ok s ∧ (host.run args).stdout = format.write s ++ "\n" := by
  simp only [run, hargs] at hcode ⊢
  cases hfilter : host.filter level with
  | error e => simp [hfilter] at hcode
  | ok filter =>
    by_cases hne : words = []
    · simp [hfilter, hne] at hcode
    · simp only [hfilter, if_neg hne, runQuery] at hcode ⊢
      cases hparse : Statement.parse (queryText words) with
      | error e => simp [hparse] at hcode
      | ok s => exact ⟨s, rfl, rfl⟩

/-- **The output of a run is taken back as it is.** A run that writes a statement as query text, from words
without quotes, writes the same text once more when it is given that text. The exception is a statement
without tables whose last column names its table, which is missing a comma in its canonical form. The second
run may be on another host. What its log has to say stands in front of the error, and that is nothing unless
the surroundings have set a log filter. -/
theorem run_output {host host' : Host} {level output : String} (hreader : ReaderSpec host'.readArguments)
    (hfilter : FilterSpec host'.readFilter)
    (hargs : host.readArguments args = .ok ⟨.text, level, words⟩) (hwords : words ≠ [])
    (hquote : ∀ word ∈ words, '\'' ∉ word.toList) (hcode : (host.run args).code = 0)
    (hstdout : (host.run args).stdout = output ++ "\n") :
    ∃ s filter log, Statement.parse (queryText words) = .ok s ∧
      host'.filter defaultLevel = .ok filter ∧ host'.log filter (queryText [output]) = log ∧
      (host'.logVariable = none → log = "") ∧
      host'.run [output] =
        if s.tables = [] ∧ endsQualified s.columns = true then
          ⟨1, "", log ++ ("Error: parse query\n\nCaused by:\n    " ++
            "syntax error: expected comma after table.column, found end of input\n")⟩
        else ⟨0, (host.run args).stdout, log⟩ := by
  obtain ⟨s, hparse, hwritten⟩ := exists_of_code_eq_zero hargs hcode
  obtain ⟨filter, hread, hsilent⟩ := exists_filter hfilter
  have houtput : output = s.render := by
    have hline : output ++ "\n" = s.render ++ "\n" := hstdout.symm.trans hwritten
    rw [← String.toList_inj, String.toList_append, String.toList_append] at hline
    exact String.toList_injective (List.append_cancel_right hline)
  have hword : ∀ word ∈ [output], word.toList.head? ≠ some '-' := by
    simpa [houtput] using head_render s
  have hagain := Statement.parse_render_space hparse (quote_not_mem_queryText hquote)
    (getLast_queryText hwords)
  have htext : queryText [output] = s.render ++ " " := by simp [queryText, houtput]
  refine ⟨s, filter, _, hparse, hread, rfl, fun hnone => log_of_silent (hsilent hnone) _, ?_⟩
  rw [run_words hreader hread (by simp) hword, hwritten, runQuery, htext, hagain]
  by_cases hnil : s.tables = []
  · by_cases hlast : endsQualified s.columns = true
    · rw [if_pos hnil, if_pos hlast, if_pos ⟨hnil, hlast⟩]
      rfl
    · rw [if_pos hnil, if_neg hlast, if_neg fun h => hlast h.2]
      simp only [Format.write, render_of_nil hnil]
  · rw [if_neg hnil, if_neg fun h => hnil h.1]

/-- An output that ends with the space behind the last word, and one that ends with a column and its
table. -/
theorem run_output_space :
    (quiet none).run ["SELECT a.b,c FROM t WHERE x = 1 "] =
        ⟨0, ((quiet (some "info")).run
          ["--format=text", "select", "a.b, c,", "from t where", "x\t =", "1"]).stdout, ""⟩ ∧
      (quiet none).run ["SELECT a.b"] = ⟨1, "", "Error: parse query\n\nCaused by:\n    " ++
        "syntax error: expected comma after table.column, found end of input\n"⟩ := by
  have hparse : Statement.parse (queryText ["select", "a.b, c,", "from t where", "x\t =", "1"])
      = .ok ⟨[⟨some "a", "b"⟩, ⟨none, "c"⟩], ["t"], " x = 1 "⟩ := by decide +kernel
  have hparse' : Statement.parse (queryText ["select a.b", "from where 1"])
      = .ok ⟨[⟨some "a", "b"⟩], [], " 1 "⟩ := by decide +kernel
  obtain ⟨s, _, log, hs, -, -, hlog, hrun⟩ := @run_output
    ["--format=text", "select", "a.b, c,", "from t where", "x\t =", "1"]
    ["select", "a.b, c,", "from t where", "x\t =", "1"] (quiet (some "info")) (quiet none) "warn"
    "SELECT a.b,c FROM t WHERE x = 1 " Options.read_spec LogFilter.read_spec
    (by decide +kernel) (by simp) (by decide) (by decide +kernel) (by decide +kernel)
  obtain ⟨s', _, log', hs', -, -, hlog', hrun'⟩ := @run_output
    ["--log-level=error", "select a.b", "--", "from where 1"] ["select a.b", "from where 1"]
    (quiet none) (quiet none) "error" "SELECT a.b" Options.read_spec LogFilter.read_spec
    (by decide +kernel) (by simp) (by decide) (by decide +kernel) (by decide +kernel)
  rw [hparse] at hs
  cases hs
  rw [hparse'] at hs'
  cases hs'
  rw [hlog rfl] at hrun
  rw [hlog' rfl] at hrun'
  exact ⟨hrun, hrun'⟩

end Host

end CommandLine

end SelectQuery
