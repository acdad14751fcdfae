import SelectQuery.Proofs.Reading.Grammar

/-!
# The clauses that are entered

Two keywords lead from one clause to the next: one ends the column list and the other ends the table
list. Which clauses a query enters can be told from its tokens (`Token.EntersTables` and
`Token.EntersCondition`), and the reading tells it too, as it reports each clause that it comes to
(`Progress.entersTables_iff` and `Progress.entersCondition_iff`).

The reports only ever grow. Each token leaves the events so far as they are and may add some
(`Progress.events_prefix_run`), and blanks add none.
-/

namespace SelectQuery

namespace Token

/-- The keyword of the tables ends the column list: it stands right behind the first keyword and some
columns. Blanks do not count. -/
def EntersTables (ts : List Token) : Prop :=
  ∃ cs trailing us written vs,
    significant ts = us ++ .keyword .from written :: vs ∧ SelectPart cs trailing us

/-- The keyword of the condition ends the table list: it stands right behind the first two keywords
with their lists. Blanks do not count in front of it. -/
def EntersCondition (ts : List Token) : Prop :=
  ∃ cs tables us written vs,
    ts = us ++ .keyword .where written :: vs ∧ SourcePart cs tables (significant us)

variable {ts : List Token}

theorem EntersTables.append (h : EntersTables ts) (us : List Token) : EntersTables (ts ++ us) := by
  obtain ⟨cs, trailing, vs, written, ws, hts, hcs⟩ := h
  exact ⟨cs, trailing, vs, written, ws ++ significant us, by simp [significant_append, hts], hcs⟩

theorem EntersCondition.append (h : EntersCondition ts) (us : List Token) :
    EntersCondition (ts ++ us) := by
  obtain ⟨cs, tables, vs, written, ws, rfl, hsource⟩ := h
  exact ⟨cs, tables, vs, written, ws ++ us, by simp, hsource⟩

theorem entersTables_of_sourcePart {cs : List Column} {tables : List String}
    (h : SourcePart cs tables (significant ts)) : EntersTables ts := by
  generalize hus : significant ts = us at h
  obtain ⟨written, hcs, -⟩ := h
  exact ⟨cs, _, _, written, _, hus, hcs⟩

end Token

namespace Progress

open Token

variable {p : Progress} {cs : List Column} {tables : List String} {place : Place}
  {ts : List Token} {t found : Token}

/-! ## Events are only added -/

theorem events_prefix_accept (p : Progress) (t : Token) : p.events <+: (p.accept t).events := by
  fun_cases accept p t <;> simp [events, Place.clause]

theorem events_prefix_step (p : Progress) (t : Token) : p.events <+: (p.step t).events := by
  unfold step
  split
  · exact List.prefix_rfl
  · exact events_prefix_accept p t

/-- **No event is ever taken back.** -/
theorem events_prefix_run (p : Progress) (ts : List Token) : p.events <+: (p.run ts).events := by
  induction ts generalizing p with
  | nil => exact List.prefix_rfl
  | cons t ts ih => exact (events_prefix_step p t).trans (ih (p.step t))

theorem events_prefix_close (p : Progress) : p.events <+: p.close.events := by
  fun_cases close p <;> simp [events, Place.clause]

theorem events_of_step_failed (h : p.step t = failed cs tables place found) :
    (p.step t).events = p.events := by
  rw [h]
  unfold step at h
  split at h
  · rw [h]
  · obtain ⟨rfl, -⟩ | rfl := accept_failed_cases h
    · rfl
    · rfl

theorem events_run_significant (p : Progress) (ts : List Token) :
    (p.run (significant ts)).events = (p.run ts).events := by
  obtain hrun | ⟨cs, tables, text, text', hrun, hrun'⟩ := run_significant_cases p ts
  · rw [hrun]
  · -- no event tells the text of the condition
    rw [hrun, hrun']
    rfl

/-! ## The events tell the clauses -/

theorem Reads.enters (h : p.Reads ts)
    (hp : ∀ cs tables place found, p ≠ failed cs tables place found) :
    (.entering .from ∈ p.events → EntersTables ts) ∧
      (.entering .where ∈ p.events → EntersCondition ts) := by
  cases p with
  | lists cs tables place =>
    cases place with
    | table =>
      obtain ⟨trailing, us, written, hcs, hts⟩ := h
      exact ⟨fun _ => ⟨cs, trailing, us, written, _, hts, hcs⟩, by simp [events, Place.clause]⟩
    | afterTable =>
      obtain ⟨trailing, us, written, _, _, -, hcs, hts⟩ := h
      exact ⟨fun _ => ⟨cs, trailing, us, written, _, hts, hcs⟩, by simp [events, Place.clause]⟩
    | _ => simp [events, Place.clause]
  | condition cs tables text =>
    obtain ⟨us, written, rest, rfl, hsource, -⟩ := h
    exact ⟨fun _ => (entersTables_of_sourcePart hsource).append _,
      fun _ => ⟨cs, tables, us, written, rest, rfl, hsource⟩⟩
  | failed cs tables place found => exact absurd rfl (hp cs tables place found)

/-- What the reading reports as entered has been entered, also if it fails later. -/
theorem enters_of_mem_events (ts : List Token) :
    (.entering .from ∈ (initial.run ts).events → EntersTables ts) ∧
      (.entering .where ∈ (initial.run ts).events → EntersCondition ts) := by
  -- from the end, since a failure has lost the account and only the events are left
  induction ts using List.reverseRecOn with
  | nil => simp [run_nil, initial, events, Place.clause]
  | append_singleton ts t ih =>
    by_cases hfailed : ∃ cs tables place found, initial.run (ts ++ [t]) = failed cs tables place found
    · obtain ⟨cs, tables, place, found, hfailed⟩ := hfailed
      rw [run_concat] at hfailed ⊢
      rw [events_of_step_failed hfailed]
      exact ⟨fun h => (ih.1 h).append [t], fun h => (ih.2 h).append [t]⟩
    · simp only [not_exists] at hfailed
      exact (reads_run (ts ++ [t])).enters hfailed

/-- **The tables are entered** just if the reading reports it. -/
theorem entersTables_iff : EntersTables ts ↔ .entering .from ∈ (initial.run ts).events := by
  refine ⟨?_, (enters_of_mem_events ts).1⟩
  rintro ⟨cs, trailing, us, written, vs, hts, hcs⟩
  obtain ⟨ds, place, hrun, hfrom, -⟩ := run_selectPart hcs
  rw [← events_run_significant, hts, run_append, hrun, run_cons, hfrom]
  exact (events_prefix_run _ vs).subset (by simp [events, Place.clause])

/-- **The condition is entered** just if the reading reports it. -/
theorem entersCondition_iff : EntersCondition ts ↔ .entering .where ∈ (initial.run ts).events := by
  refine ⟨?_, (enters_of_mem_events ts).2⟩
  rintro ⟨cs, tables, us, written, vs, rfl, hsource⟩
  obtain ⟨ds, place, hrun, hwhere, -⟩ := run_sourcePart hsource
  rw [run_append, run_of_significant hrun, run_cons, hwhere]
  exact (events_prefix_run _ vs).subset (by simp [events])

theorem entersCondition_iff_run : EntersCondition ts ↔
    ∃ cs tables text, initial.run ts = condition cs tables text := by
  rw [entersCondition_iff]
  cases initial.run ts with
  | lists cs tables place => cases place <;> simp [events, Place.clause]
  | condition => simp [events]
  | failed cs tables place found => cases place <;> simp [events, Place.clause]

instance (ts : List Token) : Decidable (EntersTables ts) := decidable_of_iff' _ entersTables_iff

instance (ts : List Token) : Decidable (EntersCondition ts) :=
  decidable_of_iff' _ entersCondition_iff

example : EntersTables (scan "select a from, from") ∧
    ¬EntersCondition (scan "select a from t u where x") := by decide +kernel

end Progress

end SelectQuery
