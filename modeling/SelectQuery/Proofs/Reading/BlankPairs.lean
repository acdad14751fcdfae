import SelectQuery.Proofs.Reading.Clauses
import SelectQuery.Proofs.Reading.Continuation
import SelectQuery.Proofs.Reading.Unread

/-!
# Neighbouring blanks

A reader skips a single whitespace token between two others, which is enough for the tokens of a text. Two
of them in a row only come about when tokens are handed back, perhaps with one of the two on the stack and
the other in the text. What then comes of the reading is decided by the tokens in front of the first such
pair (`Statement.readBehind_blanks`): if these are the start of a query, but do not enter the condition,
the second blank of the pair is the token that does not fit. A failure in front of the pair stays as it is,
and in the condition every blank counts.

Without such a pair, all blanks in front of the condition may be taken out.
-/

namespace SelectQuery

open Token

namespace Token

def StartsQuery (ts : List Token) : Prop := ∃ more s, Query (ts ++ more) s

/-- The first two neighbouring blanks, with the tokens in front of them and those behind them. -/
structure FirstPair (ts before after : List Token) : Prop where
  split : ts = before ++ .whitespace :: .whitespace :: after
  thin : Thin (before ++ [.whitespace])

variable {ts us vs : List Token} {t : Token}

theorem thin_cons : Thin (t :: ts) ↔ ¬(t = .whitespace ∧ ts.head? = some .whitespace) ∧ Thin ts := by
  refine List.isChain_cons.trans (and_congr_left fun _ => ?_)
  simp only [Option.mem_def, not_and]
  exact ⟨fun h ht hts => h _ hts ht rfl, fun h u hu ht hu' => h ht (hu' ▸ hu)⟩

theorem exists_firstPair (h : ¬Thin ts) : ∃ us vs, FirstPair ts us vs := by
  induction ts with
  | nil => exact absurd .nil h
  | cons t ts ih =>
    by_cases hpair : t = .whitespace ∧ ts.head? = some .whitespace
    · obtain ⟨rfl, hts⟩ := hpair
      obtain ⟨vs, rfl⟩ := List.head?_eq_some_iff.1 hts
      exact ⟨[], vs, rfl, .singleton _⟩
    · obtain ⟨us, vs, rfl, hthin⟩ := ih fun hts => h (thin_cons.2 ⟨hpair, hts⟩)
      refine ⟨t :: us, vs, rfl, thin_cons.2 ⟨fun hp => hpair ⟨hp.1, ?_⟩, hthin⟩⟩
      cases us with
      | nil => rfl
      | cons u us => exact hp.2

theorem thin_significant_append (ts : List Token) (h : Thin us) : Thin (significant ts ++ us) := by
  induction ts with
  | nil => exact h
  | cons t ts ih =>
    by_cases ht : t = .whitespace
    · rw [ht, significant_cons_whitespace]
      exact ih
    · rw [significant_cons ht]
      exact thin_cons.2 ⟨fun hp => ht hp.1, ih⟩

theorem thin_significant (ts : List Token) : Thin (significant ts) := by
  have := thin_significant_append ts .nil
  rwa [List.append_nil] at this

theorem mem_significant : t ∈ significant ts ↔ t ∈ ts ∧ t ≠ .whitespace := by
  simp [significant]

end Token

namespace Progress

variable {p : Progress} {cs : List Column} {tables : List String} {place : Place}
  {ts us vs : List Token} {e : SyntaxError}

theorem startsQuery_iff : StartsQuery ts ↔ (initial.run ts).isFailed = false := by
  refine ⟨?_, fun h => ?_⟩
  · rintro ⟨more, s, hquery⟩
    rw [← outcome_eq_ok_iff, run_append] at hquery
    by_contra hfailed
    rw [Bool.not_eq_false] at hfailed
    rw [isFailed_run hfailed] at hquery
    exact outcome_ne_ok_of_isFailed hfailed hquery
  · cases hp : initial.run ts with
    | lists cs tables place =>
      obtain ⟨rest, s, hrest⟩ := exists_completion cs tables place
      refine ⟨scanChars rest, s, ?_⟩
      rwa [← outcome_eq_ok_iff, run_append, hp]
    | condition cs tables text =>
      refine ⟨[], ⟨cs, tables, text⟩, ?_⟩
      rw [← outcome_eq_ok_iff, List.append_nil, hp]
      rfl
    | failed =>
      rw [hp] at h
      cases h

instance (ts : List Token) : Decidable (StartsQuery ts) := decidable_of_iff' _ startsQuery_iff

theorem run_significant (h : ∀ cs tables text, p.run ts ≠ condition cs tables text) :
    p.run (significant ts) = p.run ts := by
  obtain hrun | ⟨cs, tables, _, text', -, hcondition⟩ := run_significant_cases p ts
  · exact hrun
  · exact absurd hcondition (h cs tables text')

theorem found_mem_significant {found : Token}
    (h : initial.run ts = failed cs tables place found) : found ∈ significant ts := by
  have hrun : initial.run (significant ts) = initial.run ts := by
    refine run_significant fun cs tables text => ?_
    rw [h]
    exact nofun
  exact (found_of_run_failed (hrun.trans h)).resolve_right nofun

/-- A blank fits nowhere in the lists, and so only the first one of a pair is left out. -/
theorem runFrom_pair : (lists cs tables place).runFrom false (.whitespace :: .whitespace :: vs) =
    failed cs tables place .whitespace := by
  have haccept : (lists cs tables place).accept .whitespace = failed cs tables place .whitespace := by
    cases place <;> rfl
  simp [runFrom, skips, haccept, runFrom_failed]

end Progress

namespace Statement

open Progress

/-- The reading of a text with some tokens handed back in front of it. -/
def readBehind (handedBack : List Token) (text : String) : Reading :=
  read ((Reader.ofString text).unreadAll handedBack)

/-- The reading of tokens alone, all of them handed back. -/
def readTokens (ts : List Token) : Reading := readBehind ts.reverse ""

variable {handedBack ts us vs before after : List Token} {text : String} {cs : List Column}
  {tables : List String} {e : SyntaxError}

theorem readBehind_eq (handedBack : List Token) (text : String) :
    readBehind handedBack text = (initial.runFrom false (stream handedBack text)).reading := by
  rw [readBehind, read_eq, Reader.tokens_unreadAll]

theorem readTokens_eq (hts : ∀ t ∈ ts, t ≠ .eof) :
    readTokens ts = (initial.runFrom false ts).reading := by
  have hstream : stream ts.reverse "" = ts := by
    rw [stream, List.reverse_reverse, scan, String.toList_empty, scanChars_nil, List.append_nil,
      List.takeWhile_eq_self_iff]
    simpa using hts
  rw [readTokens, readBehind_eq, hstream]

theorem ne_eof_of_mem_stream {t : Token} (h : t ∈ stream handedBack text) : t ≠ .eof := by
  simpa using List.mem_takeWhile_imp h

/-! ## Without neighbouring blanks -/

/-- **The blanks in front of the condition** may be taken out. -/
theorem readTokens_of_enters {written : String} (hthin : Thin ts) (hts : ∀ t ∈ ts, t ≠ .eof)
    (hsplit : ts = before ++ .keyword .where written :: after)
    (hsource : SourcePart cs tables (significant before)) :
    readTokens (significant before ++ .keyword .where written :: after) =
      (initial.runFrom false ts).reading := by
  obtain ⟨us, place, hrun, -, -⟩ := run_sourcePart hsource
  have hthin' : Thin (significant before ++ .keyword .where written :: after) := by
    rw [hsplit] at hthin
    exact thin_significant_append before (List.isChain_append.1 hthin).2.1
  have hmem : ∀ t ∈ significant before ++ .keyword .where written :: after, t ≠ .eof := by
    intro t ht
    refine hts t (hsplit ▸ ?_)
    rcases List.mem_append.1 ht with ht | ht
    · exact List.mem_append_left _ (mem_significant.1 ht).1
    · exact List.mem_append_right _ ht
  rw [readTokens_eq hmem, runFrom_eq_run hthin', runFrom_eq_run hthin, hsplit, run_append, run_append,
    hrun, run_of_significant hrun]

/-- **Without a condition**, all blanks may be taken out. -/
theorem readTokens_of_not_enters (hthin : Thin ts) (hts : ∀ t ∈ ts, t ≠ .eof)
    (hcondition : ¬EntersCondition ts) :
    readTokens (significant ts) = (initial.runFrom false ts).reading := by
  have hrun : initial.run (significant ts) = initial.run ts :=
    run_significant fun cs tables cond hp => hcondition (entersCondition_iff_run.2 ⟨cs, tables, cond, hp⟩)
  rw [readTokens_eq fun t ht => hts t (mem_significant.1 ht).1,
    runFrom_eq_run (thin_significant ts), runFrom_eq_run hthin, hrun]

/-! ## With neighbouring blanks -/

section
variable (h : FirstPair ts us vs)
include h

theorem runFrom_firstPair : initial.runFrom false ts =
    (initial.run us).runFrom false (.whitespace :: .whitespace :: vs) := by
  rw [h.split]
  exact runFrom_append _ h.thin nofun

/-- **The second blank of the pair does not fit** just if the tokens in front of the pair are the start of a
query and do not enter the condition. -/
theorem found_whitespace_iff :
    (∃ e, (initial.runFrom false ts).outcome = .error e ∧ e.found = .whitespace) ↔
      StartsQuery us ∧ ¬EntersCondition us := by
  rw [runFrom_firstPair h, startsQuery_iff, entersCondition_iff_run]
  cases hp : initial.run us with
  | lists cs tables place =>
    rw [runFrom_pair]
    exact iff_of_true ⟨_, rfl, rfl⟩ ⟨rfl, nofun⟩
  | condition cs tables cond =>
    rw [runFrom_condition]
    exact iff_of_false (fun ⟨_, he, _⟩ => nomatch he) fun hnot => hnot.2 ⟨_, _, _, rfl⟩
  | failed cs tables place found =>
    rw [runFrom_failed]
    refine iff_of_false ?_ fun hnot => nomatch hnot.1
    rintro ⟨e, he, hfound⟩
    cases he
    exact (mem_significant.1 (found_mem_significant hp)).2 hfound

/-- **A failure in front of the pair** is that of the tokens there, with or without their blanks. -/
theorem error_of_not_startsQuery (hus : ∀ t ∈ us, t ≠ .eof) (hquery : ¬StartsQuery us) :
    ∃ e, (readTokens (significant us)).result = .error e ∧ e.found ∈ significant us ∧
      (initial.runFrom false ts).outcome = .error e := by
  rw [startsQuery_iff, Bool.not_eq_false, isFailed_iff] at hquery
  obtain ⟨cs, tables, place, found, hp⟩ := hquery
  have hrun : initial.run (significant us) = failed cs tables place found := by
    rw [run_significant, hp]
    rw [hp]
    exact nofun
  refine ⟨⟨place.expectation, found⟩, ?_, found_mem_significant hp, ?_⟩
  · rw [readTokens_eq fun t ht => hus t (mem_significant.1 ht).1, runFrom_eq_run (thin_significant us),
      hrun, result_reading]
    rfl
  · rw [runFrom_firstPair h, hp, runFrom_failed]
    rfl

/-- **Behind the keyword of the condition**, each blank of the pair is a space, and so are all others. -/
theorem outcome_of_enters {written : String} (hsplit : us = before ++ .keyword .where written :: after)
    (hsource : SourcePart cs tables (significant before)) :
    (initial.runFrom false ts).outcome =
      .ok ⟨cs, tables, clauseText (after ++ .whitespace :: .whitespace :: vs)⟩ := by
  obtain ⟨items, place, hrun, hwhere, -⟩ := run_sourcePart hsource
  rw [runFrom_firstPair h, hsplit, run_append, run_of_significant hrun, run_cons, hwhere, run_condition,
    runFrom_condition, ← conditionOf_eq_clauseText]
  simp [outcome, close, result, conditionOf]

end

/-- **Blanks in any stream of tokens.** Without neighbouring blanks, the reading stays as it is if all blanks
in front of the keyword of the condition are taken out, or all blanks at all without that keyword. With
neighbouring blanks there is a first pair of them. The reading fails at a blank just if the tokens in front
of that pair are the start of a query and do not enter the condition. Otherwise these tokens fail already,
and in the same way without their blanks, or the condition has been entered in front of the pair, and each
blank behind its keyword is a space. -/
theorem readBehind_blanks (handedBack : List Token) (text : String) :
    (Thin (stream handedBack text) →
        (∀ cs tables before written after,
          stream handedBack text = before ++ .keyword .where written :: after →
          SourcePart cs tables (significant before) →
          readBehind handedBack text =
            readTokens (significant before ++ .keyword .where written :: after)) ∧
        (¬EntersCondition (stream handedBack text) →
          readBehind handedBack text = readTokens (significant (stream handedBack text)))) ∧
      (¬Thin (stream handedBack text) → ∃ us vs, FirstPair (stream handedBack text) us vs) ∧
      ∀ us vs, FirstPair (stream handedBack text) us vs →
        ((∃ e, (readBehind handedBack text).result = .error e ∧ e.found = .whitespace) ↔
          StartsQuery us ∧ ¬EntersCondition us) ∧
        (¬StartsQuery us → ∃ e, (readTokens (significant us)).result = .error e ∧
          e.found ∈ significant us ∧ (readBehind handedBack text).result = .error e) ∧
        ∀ cs tables before written after, us = before ++ .keyword .where written :: after →
          SourcePart cs tables (significant before) →
          (readBehind handedBack text).result =
            .ok ⟨cs, tables, clauseText (after ++ .whitespace :: .whitespace :: vs)⟩ := by
  have heof : ∀ t ∈ stream handedBack text, t ≠ .eof := fun t ht => ne_eof_of_mem_stream ht
  rw [readBehind_eq, result_reading]
  generalize stream handedBack text = ts at heof ⊢
  refine ⟨fun hthin => ⟨fun cs tables before written after hsplit hsource => ?_, fun hcondition => ?_⟩,
    exists_firstPair, fun us vs h => ⟨?_, fun hquery => ?_, ?_⟩⟩
  · exact (readTokens_of_enters hthin heof hsplit hsource).symm
  · exact (readTokens_of_not_enters hthin heof hcondition).symm
  · exact found_whitespace_iff h
  · exact error_of_not_startsQuery h (fun t ht => heof t (by simp [h.split, ht])) hquery
  · intro cs tables before written after hsplit hsource
    exact outcome_of_enters h hsplit hsource

/-- A pair of blanks with one of them on the stack and one in the text, in front of a column and in a
condition, and single blanks that make no difference. -/
theorem readBehind_blanks_seam :
    (∃ e, (readBehind [.whitespace, .keyword .select "select"] " a").result = .error e ∧
        e.found = .whitespace) ∧
      (readBehind [.whitespace, .keyword .where "where", .whitespace, .keyword .from "from",
        .keyword .select "select"] " 1").result = .ok ⟨[], [], "  1"⟩ ∧
      readBehind [.whitespace, .keyword .select "select"] "a b" =
        readTokens [.keyword .select "select", .word "a", .word "b"] := by
  have hcolumn : FirstPair (stream [.whitespace, .keyword .select "select"] " a")
      [.keyword .select "select"] [.word "a"] := ⟨by decide +kernel, by decide⟩
  have hcondition : FirstPair (stream [.whitespace, .keyword .where "where", .whitespace,
        .keyword .from "from", .keyword .select "select"] " 1")
      [.keyword .select "select", .keyword .from "from", .whitespace, .keyword .where "where"]
      [.word "1"] := ⟨by decide +kernel, by decide⟩
  have hselect : SelectPart [] false [.keyword .select "select"] := .mk "select" (.plain [])
  have hsource : SourcePart [] [] [.keyword .select "select", .keyword .from "from"] :=
    .mk "from" hselect (.plain [])
  have hthin : Thin (stream [.whitespace, .keyword .select "select"] "a b") := by decide +kernel
  have hsignificant : significant (stream [.whitespace, .keyword .select "select"] "a b")
      = [.keyword .select "select", .word "a", .word "b"] := by decide +kernel
  refine ⟨((readBehind_blanks _ _).2.2 _ _ hcolumn).1.2 (by decide +kernel),
    ((readBehind_blanks _ _).2.2 _ _ hcondition).2.2 [] [] [.keyword .select "select",
      .keyword .from "from", .whitespace] "where" [] rfl hsource, ?_⟩
  rw [← hsignificant]
  exact ((readBehind_blanks _ _).1 hthin).2 (by decide +kernel)

end Statement

end SelectQuery
