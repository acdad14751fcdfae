import SelectQuery.Keyword

/-!
# Upper-case forms of longer texts

The upper-case form of a text is put together from those of its characters, and no character is lost
on the way. So no keyword is written with a quote, and a keyword with more text glued to it is no
longer one.
-/

namespace SelectQuery

namespace Text

theorem CaseExpansion.length_image : ∀ e ∈ caseExpansions, 1 < e.image.length := by decide

/-- A code point is shifted with its run, or it expands, or it stays as it is. -/
theorem upperCodes_cases (code : Nat) :
    (∃ r ∈ caseRuns, r.contains code = true ∧ upperCodes code = [r.upper code]) ∨
      (∃ e ∈ caseExpansions, upperCodes code = e.image) ∨ upperCodes code = [code] := by
  unfold upperCodes
  split
  · rename_i r hr
    have hcontains := List.find?_some (p := fun r : CaseRun => r.contains code) hr
    exact .inl ⟨r, List.mem_of_find?_eq_some hr, hcontains, rfl⟩
  · split
    · rename_i e he
      exact .inr (.inl ⟨e, List.mem_of_find?_eq_some he, rfl⟩)
    · exact .inr (.inr rfl)

theorem upperChar_cases (c : Char) :
    (∃ d, upperChar c = [d]) ∨ ∃ e ∈ caseExpansions, upperChar c = e.image.map Char.ofNat := by
  by_cases hc : c.toNat < 0x80
  · exact .inl ⟨c.toUpper, if_pos hc⟩
  · rw [upperChar, if_neg hc]
    obtain ⟨r, -, -, hupper⟩ | ⟨e, he, hupper⟩ | hupper := upperCodes_cases c.toNat
    · exact .inl ⟨_, by rw [hupper]; rfl⟩
    · exact .inr ⟨e, he, by rw [hupper]⟩
    · exact .inl ⟨_, by rw [hupper]; rfl⟩

theorem upperChar_ne_nil (c : Char) : upperChar c ≠ [] := by
  obtain ⟨d, hd⟩ | ⟨e, he, hexpands⟩ := upperChar_cases c
  · rw [hd]
    exact List.cons_ne_nil d []
  · have hlength := e.length_image he
    rw [hexpands, Ne, List.map_eq_nil_iff]
    intro hnil
    rw [hnil] at hlength
    cases hlength

theorem uppercase_append (a b : String) : uppercase (a ++ b) = uppercase a ++ uppercase b := by
  apply String.toList_injective
  simp [toList_uppercase]

theorem uppercase_eq_empty_iff {text : String} : uppercase text = "" ↔ text = "" := by
  rw [← String.toList_eq_nil_iff, toList_uppercase, List.flatMap_eq_nil_iff]
  refine ⟨fun h => ?_, by rintro rfl; simp⟩
  rw [← String.toList_eq_nil_iff, List.eq_nil_iff_forall_not_mem]
  exact fun c hc => upperChar_ne_nil c (h c hc)

end Text

/-- A character without case is in the spelling of a keyword that it is in. -/
theorem Keyword.mem_spelling {text : String} {k : Keyword} {c : Char}
    (h : Keyword.ofText? text = some k) (hc : c ∈ text.toList) (hcase : Text.upperChar c = [c]) :
    c ∈ k.spelling.toList := by
  rw [Keyword.ofText?_eq_some_iff] at h
  rw [← h, Text.toList_uppercase, List.mem_flatMap]
  exact ⟨c, hc, by simp [hcase]⟩

theorem Keyword.quote_not_mem {text : String} {k : Keyword} (h : Keyword.ofText? text = some k) :
    '\'' ∉ text.toList := by
  intro hc
  have hquote := Keyword.mem_spelling h hc (by decide)
  revert hquote
  cases k <;> decide

theorem Keyword.ne_empty {text : String} {k : Keyword} (h : Keyword.ofText? text = some k) :
    text ≠ "" := by
  rintro rfl
  revert h
  cases k <;> decide

theorem Keyword.ofText?_where_append {text : String} (h : text ≠ "") :
    Keyword.ofText? ("WHERE" ++ text) = none := by
  have hwhere : Text.uppercase "WHERE" = "WHERE" := by decide
  rw [Option.eq_none_iff_forall_ne_some]
  intro k hk
  rw [Keyword.ofText?_eq_some_iff, Text.uppercase_append, hwhere] at hk
  have hchars := congrArg String.toList hk
  rw [String.toList_append] at hchars
  cases k with
  | select => simp [spelling] at hchars
  | «from» => simp [spelling] at hchars
  | «where» =>
    refine h (Text.uppercase_eq_empty_iff.1 ?_)
    simpa [spelling] using hchars

end SelectQuery
