import Mathlib.Logic.Relation
import SelectQuery.Proofs.Reading.Continuation

/-!
# Blanks between tokens

How a text is spaced does not matter to its reading. Any run of blanks outside of quotes may be written
with other blanks (`Respaced`), also in the condition, since a run is a single token however it is
written. In front of the condition a run of blanks next to a mark may even be put in or taken out
(`Padded`), since the mark ends the token before it anyway and the reading leaves blanks out.

Both are stated for a single run, and any number of such changes is a chain of them
(`Statement.parse_eq_of_eqvGen`).
-/

namespace SelectQuery

open Token

structure IsBlankRun (w : List Char) : Prop where
  ne_nil : w ≠ []
  blank : ∀ c ∈ w, c ∈ [' ', '\t', '\n']

/-- The second text is the first one with a run of blanks outside of quotes replaced by another run. It
is replaced as a whole: no blank stands next to it. -/
inductive Respaced : List Char → List Char → Prop
  | mk {before run run' after : List Char} (houtside : Even (before.count '\'')) (hrun : IsBlankRun run)
      (hrun' : IsBlankRun run') (hbefore : ∀ c ∈ before.getLast?, c ∉ [' ', '\t', '\n'])
      (hafter : ∀ c ∈ after.head?, c ∉ [' ', '\t', '\n']) :
      Respaced (before ++ run ++ after) (before ++ run' ++ after)

/-- The place between two parts of a text is at one of its ends or next to a mark. -/
def Touches (before after : List Char) : Prop :=
  before = [] ∨ after = [] ∨ (∃ c ∈ before.getLast?, c ∈ ['.', ',', '=', '\'']) ∨
    ∃ c ∈ after.head?, c ∈ ['.', ',', '=', '\'']

/-- The keyword that opens the condition is in the text: reading the text enters the condition. -/
def OpensCondition (text : List Char) : Prop :=
  .entering .where ∈ (Statement.read (.ofString (String.ofList text))).events

/-- The second text is the first one with a run of blanks put in. The place for it is outside of quotes,
at an end of the text or next to a mark. The keyword that opens the condition, if the reading gets to it
at all, is not in front of the place. -/
inductive Padded : List Char → List Char → Prop
  | mk {before run after : List Char} (houtside : Even (before.count '\'')) (hrun : IsBlankRun run)
      (htouches : Touches before after)
      (hplace : OpensCondition (before ++ after) → ¬OpensCondition before) :
      Padded (before ++ after) (before ++ run ++ after)

variable {cs ds before run after : List Char}

instance (w : List Char) : Decidable (IsBlankRun w) :=
  decidable_of_iff (w ≠ [] ∧ w.all SelectQuery.isBlank = true)
    ⟨fun h => ⟨h.1, fun c hc => isBlank_iff.1 (List.all_eq_true.1 h.2 c hc)⟩,
      fun h => ⟨h.1, List.all_eq_true.2 fun c hc => isBlank_iff.2 (h.2 c hc)⟩⟩

theorem IsBlankRun.isBlank (h : IsBlankRun run) : ∀ c ∈ run, isBlank c = true :=
  fun c hc => isBlank_iff.2 (h.blank c hc)

/-! ## A run written in another way -/

/-- A whole run of blanks outside of quotes is a single token, and what is in front of it and behind it
is cut by itself. -/
theorem scanChars_run (houtside : Even (before.count '\'')) (hrun : IsBlankRun run)
    (hbefore : ∀ c ∈ before.getLast?, c ∉ [' ', '\t', '\n'])
    (hafter : ∀ c ∈ after.head?, c ∉ [' ', '\t', '\n']) :
    scanChars (before ++ run ++ after) = scanChars before ++ .whitespace :: scanChars after := by
  have hblank : ∀ c, c ∉ [' ', '\t', '\n'] → isBlank c = false := fun c hc => by
    rwa [← Bool.not_eq_true, isBlank_iff]
  have hpiece : Piece run after .whitespace :=
    .blanks hrun.ne_nil hrun.isBlank fun c hc => hblank c (hafter c hc)
  have hapart : Apart before (run ++ after) := by
    obtain ⟨c, w, rfl⟩ := List.exists_cons_of_ne_nil hrun.ne_nil
    exact apart_of_blank (hrun.isBlank c (by simp)) fun a ha => hblank a (hbefore a ha)
  rw [List.append_assoc, scanChars_append houtside hapart, hpiece.scanChars_eq]

/-- **A run written in another way gives the same tokens.** -/
theorem Respaced.scanChars_eq (h : Respaced cs ds) : scanChars ds = scanChars cs := by
  obtain ⟨houtside, hrun, hrun', hbefore, hafter⟩ := h
  rw [scanChars_run houtside hrun hbefore hafter, scanChars_run houtside hrun' hbefore hafter]

/-! ## A run next to a mark -/

/-- No token goes on across a place that is at an end of the text or next to a mark. -/
theorem Touches.apart (h : Touches before after) : Apart before after := by
  have hmark : ∀ c ∈ ['.', ',', '=', '\''], isBlank c = false ∧ isWordChar c = false := by
    simp [isBlank, isWordChar, isMark]
  intro a ha b hb
  rcases h with rfl | rfl | ⟨c, hc, hmem⟩ | ⟨c, hc, hmem⟩
  · cases ha
  · cases hb
  · obtain rfl := Option.mem_unique ha hc
    simp [hmark a hmem]
  · obtain rfl := Option.mem_unique hb hc
    simp [hmark b hmem]

namespace Progress

theorem entering_where_mem_reading {p : Progress} : .entering .where ∈ p.reading.events ↔
    ∃ cs tables text, p = condition cs tables text := by
  have hresult : ∀ x, .entering .where ∉ (Reading.ofResult x).events := by
    intro x
    cases x <;> simp [Reading.ofResult, Reading.complete, Reading.failed, Event.ofStatement]
  have hreading : p.reading.events = p.close.events ++ (Reading.ofResult p.outcome).events := rfl
  rw [hreading, List.mem_append, or_iff_left (hresult _)]
  cases p with
  | lists cs tables place => cases place <;> simp [close, events, Place.clause]
  | condition cs tables text => simp [close, events]
  | failed cs tables place found => cases place <;> simp [close, events, Place.clause]

theorem run_scanChars_run {cs : List Column} {tables : List String} {place : Place}
    (hrun : ∀ c ∈ run, isBlank c = true) :
    (lists cs tables place).run (scanChars (run ++ after)) =
      (lists cs tables place).run (scanChars after) := by
  induction run with
  | nil => rfl
  | cons c w ih =>
    rw [List.cons_append, run_scanChars_blank (hrun c (by simp)),
      ih fun d hd => hrun d (by simp [hd])]

end Progress

theorem opensCondition_iff : OpensCondition cs ↔
    ∃ columns tables text, Progress.initial.run (scanChars cs) = .condition columns tables text := by
  rw [OpensCondition, Statement.read_ofString, Progress.entering_where_mem_reading, scan,
    String.toList_ofList]

/-- The keyword that opens the condition stays what it is, whatever is put behind a place that no token
goes across. -/
theorem OpensCondition.append (h : OpensCondition before) (houtside : Even (before.count '\''))
    (htouches : Touches before after) : OpensCondition (before ++ after) := by
  rw [opensCondition_iff] at h ⊢
  obtain ⟨columns, tables, text, h⟩ := h
  rw [scanChars_append houtside htouches.apart, Progress.run_append, h, Progress.run_condition]
  exact ⟨_, _, _, rfl⟩

/-- **A run put in next to a mark** leads to the same progress. -/
theorem Padded.run_eq (h : Padded cs ds) :
    Progress.initial.run (scanChars ds) = Progress.initial.run (scanChars cs) := by
  obtain @⟨before, run, after, houtside, hrun, htouches, hplace⟩ := h
  obtain ⟨c, w, rfl⟩ := List.exists_cons_of_ne_nil hrun.ne_nil
  obtain ⟨us, hscan, hus⟩ := Progress.exists_scanChars_append houtside (hrun.isBlank c (by simp))
    (w ++ after)
  rw [List.append_assoc, List.cons_append, hscan, scanChars_append houtside htouches.apart,
    Progress.run_append, Progress.run_append]
  have hclosed : ¬OpensCondition before := fun h => hplace (h.append houtside htouches) h
  -- blanks count neither in the lists nor behind a failure, and the condition has not been entered
  cases hp : Progress.initial.run (scanChars before) with
  | lists columns tables place =>
    rw [hus]
    exact Progress.run_scanChars_run fun d hd => hrun.isBlank d (by simp [hd])
  | condition columns tables text => exact absurd (opensCondition_iff.2 ⟨_, _, _, hp⟩) hclosed
  | failed columns tables place found => rw [Progress.run_failed, Progress.run_failed]

/-! ## Chains of changes -/

namespace Statement

theorem parse_eq_of_run_eq
    (h : Progress.initial.run (scanChars ds) = Progress.initial.run (scanChars cs)) :
    parse (String.ofList ds) = parse (String.ofList cs) := by
  rw [parse_eq, parse_eq, scan, scan, String.toList_ofList, String.toList_ofList, h]

theorem parse_eq_of_eqvGen {change : List Char → List Char → Prop}
    (hchange : ∀ cs ds, change cs ds → parse (String.ofList ds) = parse (String.ofList cs))
    {text text' : String} (h : Relation.EqvGen change text.toList text'.toList) :
    parse text' = parse text := by
  have hchain : ∀ cs ds, Relation.EqvGen change cs ds →
      parse (String.ofList ds) = parse (String.ofList cs) := by
    intro cs ds h
    induction h with
    | rel cs ds h => exact hchange cs ds h
    | refl => rfl
    | symm _ _ _ ih => exact ih.symm
    | trans _ _ _ _ _ ih ih' => exact ih'.trans ih
  have := hchain _ _ h
  rwa [String.ofList_toList, String.ofList_toList] at this

/-- **Spacing does not matter.** A text is read the same, to the same statement or the same error, if
any runs of blanks outside of quotes are written in another way. It is also read the same if runs of
blanks are put in or taken out at its ends or next to marks, in front of the condition. -/
theorem parse_eq_of_spacing (text text' : String) :
    (Relation.EqvGen Respaced text.toList text'.toList → parse text' = parse text) ∧
      (Relation.EqvGen Padded text.toList text'.toList → parse text' = parse text) := by
  refine ⟨parse_eq_of_eqvGen fun cs ds h => ?_, parse_eq_of_eqvGen fun cs ds h => ?_⟩
  · exact parse_eq_of_run_eq (congrArg Progress.initial.run h.scanChars_eq)
  · exact parse_eq_of_run_eq h.run_eq

/-- A run in the condition that is written with a tab, and a run in front of a dot that is left out. -/
theorem parse_eq_of_spacing_tab :
    parse ("select a.b from t where x =" ++ "\t" ++ "'1  2'") =
        parse ("select a.b from t where x =" ++ "  " ++ "'1  2'") ∧
      parse "select a.b from t where x" = parse ("select a" ++ " " ++ ".b from t where x") := by
  refine ⟨(parse_eq_of_spacing _ _).1 (.rel _ _ ?_),
    (parse_eq_of_spacing _ _).2 (.symm _ _ (.rel _ _ ?_))⟩
  · simp only [String.toList_append]
    exact .mk (by decide) (by decide) (by decide) (by simp) (by simp)
  · have htext : "select a.b from t where x" = "select a" ++ ".b from t where x" := by decide
    rw [htext]
    simp only [String.toList_append]
    refine .mk (by decide) (by decide) (.inr (.inr (.inr ⟨'.', by simp, by simp⟩))) fun _ => ?_
    unfold OpensCondition
    decide +kernel

end Statement

end SelectQuery
