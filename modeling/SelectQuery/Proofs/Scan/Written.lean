import SelectQuery.Proofs.Scan.Image
import SelectQuery.Proofs.Text.Uppercase

/-!
# Writing tokens

Tokens that a text was cut into can be written again, one after the other: a single space for each run
of blanks, and quoted text with a quote on both sides. The text that comes of it need not be the one that
was cut, as the runs of blanks may have been longer and the last quote may have had no partner. But it is
cut into the same tokens.

Which token sequences are cut from some text can be told from each token and its neighbour alone
(`IsScan`), and these are also the sequences that come back when they are written (`scan_write_iff`).
-/

namespace SelectQuery.Token

/-- The token as it stands in a text. -/
def written : Token → String
  | .whitespace => " "
  | .quoted text => "'" ++ text ++ "'"
  | t => t.literal

def write (ts : List Token) : String := String.join (ts.map written)

/-- A token sequence that some text may be cut into: each token is proper, and neighbours cannot be
taken for a single token. -/
structure IsScan (ts : List Token) : Prop where
  proper : ∀ t ∈ ts, t.Proper
  /-- No two whitespace tokens are neighbours. -/
  thin : Thin ts
  /-- No two neighbours are each a word or a keyword. -/
  apart : ts.IsChain fun a b => ¬(a.isBare = true ∧ b.isBare = true)

variable {t u : Token} {ts : List Token} {rest : List Char} {k : RunKind}

/-- **What a text is cut into** is such a sequence. -/
theorem isScan_scanChars (cs : List Char) : IsScan (scanChars cs) := by
  refine ⟨fun t => proper_of_mem_scanChars, thin_scanChars cs, (isChain_scanChars cs).imp ?_⟩
  rintro a b hruns ⟨ha, hb⟩
  exact hruns .bare (isBare_iff.1 ha) (isBare_iff.1 hb)

/-! ## A written token is cut out again -/

theorem toList_write_cons (t : Token) (ts : List Token) :
    (write (t :: ts)).toList = t.written.toList ++ (write ts).toList := by
  simp [write]

theorem isWordChar_of_keyword {text : String} {k : Keyword} (h : Keyword.ofText? text = some k) :
    ∀ c ∈ text.toList, isWordChar c = true := by
  intro c hc
  rw [isWordChar_iff_not_mem]
  intro hmark
  simp only [List.mem_cons, List.not_mem_nil, or_false] at hmark
  -- neither blanks nor marks have a case, and no keyword is spelled with one
  have hcase : Text.upperChar c = [c] := by
    rcases hmark with rfl | rfl | rfl | rfl | rfl | rfl | rfl <;> decide
  have hspelling : c ∈ k.spelling.toList := Keyword.mem_spelling h hc hcase
  revert hspelling
  rcases hmark with rfl | rfl | rfl | rfl | rfl | rfl | rfl <;> cases k <;> decide

theorem Proper.piece (h : t.Proper)
    (hrest : ∀ k, t.run? = some k → ∀ c ∈ rest.head?, k.has c = false) :
    Piece t.written.toList rest t := by
  cases t with
  | eof => exact h.elim
  | whitespace => exact .blanks (by simp [written]) (by simp [written, isBlank]) (hrest .blanks rfl)
  | word text =>
    have hpiece := Piece.word (by simpa using h.ne_empty) h.isWordChar (hrest .bare rfl)
    rwa [String.ofList_toList, ofWord_of_isName h] at hpiece
  | quoted text =>
    have hpiece := @Piece.quoted text.toList rest h
    rw [String.ofList_toList] at hpiece
    simpa [written] using hpiece
  | dot => exact .dot
  | comma => exact .comma
  | equal => exact .equal
  | keyword k text =>
    have hpiece := Piece.word (by simpa using Keyword.ne_empty h) (isWordChar_of_keyword h)
      (hrest .bare rfl)
    rwa [String.ofList_toList, ofWord_of_keyword h] at hpiece
  | operator op => exact h.elim

/-- The text of proper tokens starts with a character of a class just if the first token is a run of
that class. -/
theorem Proper.has_head_write (h : u.Proper) {c : Char} (hc : c ∈ (write (u :: ts)).toList.head?)
    (hhas : k.has c = true) : u.run? = some k := by
  have hpiece : Piece u.written.toList [] u := h.piece (by simp)
  rw [toList_write_cons] at hc
  exact hpiece.run?_of_head hc hhas

/-! ## Token sequences that come back -/

theorem IsScan.tail (h : IsScan (t :: ts)) : IsScan ts :=
  ⟨fun u hu => h.proper u (List.mem_cons_of_mem t hu), (List.isChain_cons.1 h.thin).2,
    (List.isChain_cons.1 h.apart).2⟩

theorem IsScan.of_append {us : List Token} (h : IsScan (ts ++ us)) : IsScan us := by
  induction ts with
  | nil => exact h
  | cons t ts ih => exact ih h.tail

theorem IsScan.run?_ne (h : IsScan (t :: u :: ts)) (ht : t.run? = some k) : u.run? ≠ some k := by
  intro hu
  have hthin := (List.isChain_cons.1 h.thin).1 u rfl
  have hapart := (List.isChain_cons.1 h.apart).1 u rfl
  cases k with
  | blanks => exact hthin ⟨run?_eq_blanks_iff.1 ht, run?_eq_blanks_iff.1 hu⟩
  | bare => exact hapart ⟨isBare_iff.2 ht, isBare_iff.2 hu⟩

/-- **Such a sequence is cut from its own text.** -/
theorem IsScan.scan_write (h : IsScan ts) : scan (write ts) = ts := by
  induction ts with
  | nil => exact scanChars_nil
  | cons t ts ih =>
    have hrest : ∀ k, t.run? = some k → ∀ c ∈ (write ts).toList.head?, k.has c = false := by
      intro k ht c hc
      cases ts with
      | nil => cases hc
      | cons u us =>
        have hu : u.Proper := h.proper u (by simp)
        by_contra hhas
        rw [Bool.not_eq_false] at hhas
        exact h.run?_ne ht (hu.has_head_write hc hhas)
    have hpiece : Piece t.written.toList (write ts).toList t := (h.proper t (by simp)).piece hrest
    rw [scan, toList_write_cons, hpiece.scanChars_eq]
    exact congrArg (t :: ·) (ih h.tail)

/-- **The token sequences that texts are cut into** are those that come back when they are written. So
writing the tokens of a text and cutting them again gives the same tokens. -/
theorem scan_write_iff (ts : List Token) :
    ((∃ text, scan text = ts) ↔ IsScan ts) ∧ (IsScan ts ↔ scan (write ts) = ts) ∧
      ∀ text, scan (write (scan text)) = scan text := by
  have himage : ∀ text, IsScan (scan text) := fun text => isScan_scanChars text.toList
  refine ⟨⟨?_, fun h => ⟨write ts, h.scan_write⟩⟩, ⟨IsScan.scan_write, fun h => ?_⟩, fun text => ?_⟩
  · rintro ⟨text, rfl⟩
    exact himage text
  · rw [← h]
    exact himage (write ts)
  · exact (himage text).scan_write

example : scan (write (scan "a \t'b  c")) = [.word "a", .whitespace, .quoted "b  c"] := by
  decide +kernel

end SelectQuery.Token
