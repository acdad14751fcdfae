import Mathlib.Data.List.TakeWhile
import SelectQuery.Token.Scan

/-!
# Pieces of text

Cutting takes the first piece off a text, as long as it can be made. `Piece w rest t` says what that
means without a loop: `w` is of one kind, `t` is its token, and `rest` does not go on with a piece of
that kind. Every text but the empty one starts with a piece (`exists_piece`), and cutting takes just
that piece (`Piece.next_eq`). So a statement about all texts is proved piece by piece
(`piece_induction`).
-/

namespace SelectQuery

/-! ## Classes of characters -/

theorem isBlank_iff {c : Char} : isBlank c = true ↔ c ∈ [' ', '\t', '\n'] := by
  simp [isBlank, or_assoc]

theorem decide_mem_blanks : (fun c => decide (c ∈ [' ', '\t', '\n'])) = isBlank := by
  funext c
  rw [Bool.eq_iff_iff, decide_eq_true_iff, isBlank_iff]

theorem isWordChar_iff_not_mem {c : Char} :
    isWordChar c = true ↔ c ∉ [' ', '\t', '\n', '.', ',', '\'', '='] := by
  simp [isWordChar, isBlank, isMark, and_assoc]

theorem isWordChar_of_isBlank {c : Char} (h : isBlank c = true) : isWordChar c = false := by
  simp [isWordChar, h]

theorem isQuotable_iff {c : Char} : isQuotable c = true ↔ c ≠ '\'' := by
  simp [isQuotable]

theorem isBlank_space : isBlank ' ' = true := by decide

theorem isBlank_quote : isBlank '\'' = false := by decide

theorem isWordChar_quote : isWordChar '\'' = false := by decide

/-! ## Runs of characters -/

section
variable {p : Char → Bool} {cs rest : List Char}

theorem takeWhile_of_head (h : ∀ c ∈ rest.head?, p c = false) : rest.takeWhile p = [] := by
  cases rest with
  | nil => rfl
  | cons c cs => simp [h c (by simp)]

theorem dropWhile_of_head (h : ∀ c ∈ rest.head?, p c = false) : rest.dropWhile p = rest := by
  cases rest with
  | nil => rfl
  | cons c cs => simp [h c (by simp)]

theorem head_dropWhile : ∀ c ∈ (cs.dropWhile p).head?, p c = false := by
  intro c hc
  have := List.head?_dropWhile_not p cs
  rw [Option.mem_def.1 hc] at this
  simpa using this

theorem takeWhile_run (hcs : ∀ c ∈ cs, p c = true) (h : ∀ c ∈ rest.head?, p c = false) :
    (cs ++ rest).takeWhile p = cs := by
  rw [List.takeWhile_append_of_pos hcs, takeWhile_of_head h, List.append_nil]

theorem dropWhile_run (hcs : ∀ c ∈ cs, p c = true) (h : ∀ c ∈ rest.head?, p c = false) :
    (cs ++ rest).dropWhile p = rest := by
  rw [List.dropWhile_append_of_pos hcs, dropWhile_of_head h]

end

/-- A list has one first marked element. -/
theorem append_marked_inj {α : Type} {m : α → Prop} {as bs cs ds : List α} {a b : α}
    (has : ∀ x ∈ as, ¬m x) (hcs : ∀ x ∈ cs, ¬m x) (ha : m a) (hb : m b)
    (h : as ++ a :: bs = cs ++ b :: ds) : as = cs ∧ a = b ∧ bs = ds := by
  rcases List.append_eq_append_iff.1 h with
    ⟨_ | ⟨x, us⟩, rfl, hrest⟩ | ⟨_ | ⟨x, us⟩, rfl, hrest⟩
  · simpa using hrest
  · cases hrest
    exact absurd ha (hcs a (by simp))
  · simpa [eq_comm] using hrest
  · cases hrest
    exact absurd hb (has b (by simp))

namespace Token

/-! ## Pieces -/

/-- The text `w` is the first piece of `w ++ rest`, and `t` is its token. A run of blanks or of word
characters is taken as a whole, and a quote without a partner has nothing behind it. -/
inductive Piece : List Char → List Char → Token → Prop
  | dot {rest : List Char} : Piece ['.'] rest .dot
  | comma {rest : List Char} : Piece [','] rest .comma
  | equal {rest : List Char} : Piece ['='] rest .equal
  | blanks {w rest : List Char} (hne : w ≠ []) (hw : ∀ c ∈ w, isBlank c = true)
      (hrest : ∀ c ∈ rest.head?, isBlank c = false) : Piece w rest .whitespace
  | word {w rest : List Char} (hne : w ≠ []) (hw : ∀ c ∈ w, isWordChar c = true)
      (hrest : ∀ c ∈ rest.head?, isWordChar c = false) : Piece w rest (ofWord (String.ofList w))
  | quoted {q rest : List Char} (hq : '\'' ∉ q) :
      Piece ('\'' :: (q ++ ['\''])) rest (.quoted (String.ofList q))
  | unclosed {q : List Char} (hq : '\'' ∉ q) : Piece ('\'' :: q) [] (.quoted (String.ofList q))

theorem isQuotable_of_mem {q : List Char} (hq : '\'' ∉ q) : ∀ c ∈ q, isQuotable c = true := by
  intro c hc
  rw [isQuotable_iff]
  rintro rfl
  exact hq hc

variable {w rest : List Char} {t : Token}

theorem Piece.ne_nil (h : Piece w rest t) : w ≠ [] := by
  cases h with
  | blanks hne => exact hne
  | word hne => exact hne
  | _ => simp

/-- **Cutting takes the first piece** and leaves what is behind it. -/
theorem Piece.next_eq (h : Piece w rest t) : next (w ++ rest) = (t, rest) := by
  cases h with
  | dot => rfl
  | comma => rfl
  | equal => rfl
  | blanks hne hw hrest =>
    obtain ⟨c, cs, rfl⟩ := List.exists_cons_of_ne_nil hne
    rw [List.cons_append, next_of_isBlank (hw c (by simp)),
      dropWhile_run (fun d hd => hw d (by simp [hd])) hrest]
  | word hne hw hrest =>
    obtain ⟨c, cs, rfl⟩ := List.exists_cons_of_ne_nil hne
    have hcs : ∀ d ∈ cs, isWordChar d = true := fun d hd => hw d (by simp [hd])
    rw [List.cons_append, next_of_isWordChar (hw c (by simp)), takeWhile_run hcs hrest,
      dropWhile_run hcs hrest]
  | @quoted q _ hq =>
    have hend : ∀ c ∈ ('\'' :: rest).head?, isQuotable c = false := by simp [isQuotable]
    have htext : '\'' :: (q ++ ['\'']) ++ rest = '\'' :: (q ++ '\'' :: rest) := by simp
    rw [htext, next_quote, takeWhile_run (isQuotable_of_mem hq) hend,
      dropWhile_run (isQuotable_of_mem hq) hend, List.drop_one, List.tail_cons]
  | @unclosed q hq =>
    have hend : ∀ c ∈ ([] : List Char).head?, isQuotable c = false := by simp
    have htake := takeWhile_run (isQuotable_of_mem hq) hend
    have hdrop := dropWhile_run (isQuotable_of_mem hq) hend
    rw [List.append_nil] at htake hdrop ⊢
    rw [next_quote, htake, hdrop, List.drop_nil]

theorem exists_piece_quote (cs : List Char) :
    ∃ w rest t, '\'' :: cs = w ++ rest ∧ Piece w rest t := by
  have hq : '\'' ∉ cs.takeWhile isQuotable := by
    intro h
    simpa [isQuotable] using List.mem_takeWhile_imp h
  have hcs := List.takeWhile_append_dropWhile (p := isQuotable) (l := cs)
  cases hrest : cs.dropWhile isQuotable with
  | nil =>
    rw [hrest, List.append_nil] at hcs
    rw [hcs] at hq
    exact ⟨_, _, _, (List.append_nil _).symm, .unclosed hq⟩
  | cons c rest =>
    have hc : c = '\'' := by
      simpa [isQuotable, hrest] using @head_dropWhile isQuotable cs c
    subst hc
    rw [hrest] at hcs
    refine ⟨_, rest, _, ?_, .quoted hq⟩
    rw [List.cons_append, List.append_assoc, List.singleton_append, hcs]

theorem cons_eq_run_append {p : Char → Bool} {c : Char} (hc : p c = true) (cs : List Char) :
    ∃ w rest, c :: cs = w ++ rest ∧ w ≠ [] ∧ (∀ d ∈ w, p d = true) ∧
      ∀ d ∈ rest.head?, p d = false := by
  refine ⟨c :: cs.takeWhile p, cs.dropWhile p, ?_, by simp, ?_, head_dropWhile⟩
  · rw [List.cons_append, List.takeWhile_append_dropWhile]
  · intro d hd
    rcases List.mem_cons.1 hd with rfl | hd
    · exact hc
    · exact List.mem_takeWhile_imp hd

theorem exists_piece {cs : List Char} (h : cs ≠ []) :
    ∃ w rest t, cs = w ++ rest ∧ Piece w rest t := by
  obtain ⟨c, cs, rfl⟩ := List.exists_cons_of_ne_nil h
  by_cases hb : isBlank c = true
  · obtain ⟨w, rest, hcs, hne, hw, hrest⟩ := cons_eq_run_append hb cs
    exact ⟨w, rest, _, hcs, .blanks hne hw hrest⟩
  by_cases hm : isMark c = true
  · simp only [isMark, Bool.or_eq_true, decide_eq_true_eq] at hm
    rcases hm with ((rfl | rfl) | rfl) | rfl
    · exact ⟨['.'], cs, _, rfl, .dot⟩
    · exact ⟨[','], cs, _, rfl, .comma⟩
    · exact exists_piece_quote cs
    · exact ⟨['='], cs, _, rfl, .equal⟩
  · have hc : isWordChar c = true := by simp [isWordChar, hb, hm]
    obtain ⟨w, rest, hcs, hne, hw, hrest⟩ := cons_eq_run_append hc cs
    exact ⟨w, rest, _, hcs, .word hne hw hrest⟩

/-- What holds of the empty text, and of a text as soon as it holds behind its first piece, holds of
all texts. -/
@[elab_as_elim]
theorem piece_induction {motive : List Char → Prop} (cs : List Char) (nil : motive [])
    (piece : ∀ {w rest : List Char} {t : Token}, Piece w rest t → motive rest →
      motive (w ++ rest)) : motive cs := by
  induction hn : cs.length using Nat.strongRecOn generalizing cs with
  | _ n ih =>
    by_cases hne : cs = []
    · exact hne ▸ nil
    · obtain ⟨w, rest, t, rfl, hp⟩ := exists_piece hne
      have hw := List.length_pos_iff.2 hp.ne_nil
      rw [List.length_append] at hn
      exact piece hp (ih rest.length (by omega) rest rfl)

/-! ## The tokens of a text, piece by piece -/

theorem Piece.scanChars_eq (h : Piece w rest t) : scanChars (w ++ rest) = t :: scanChars rest := by
  rw [scanChars_of_ne_nil (by simp [h.ne_nil]), h.next_eq]

theorem scan_eq_nil_iff {text : String} : scan text = [] ↔ text = "" := by
  refine ⟨fun h => ?_, fun h => by rw [h, scan, String.toList_empty, scanChars_nil]⟩
  by_contra hne
  rw [scan, scanChars_of_ne_nil (by simpa using hne)] at h
  cases h

theorem scanChars_dot (rest : List Char) : scanChars ('.' :: rest) = .dot :: scanChars rest :=
  Piece.dot.scanChars_eq

theorem scanChars_comma (rest : List Char) : scanChars (',' :: rest) = .comma :: scanChars rest :=
  Piece.comma.scanChars_eq

theorem scanChars_word (hne : w ≠ []) (hw : ∀ c ∈ w, isWordChar c = true)
    (hrest : ∀ c ∈ rest.head?, isWordChar c = false) :
    scanChars (w ++ rest) = ofWord (String.ofList w) :: scanChars rest :=
  (Piece.word hne hw hrest).scanChars_eq

/-- A blank in front of a text is part of the run of blanks that the text starts with. -/
theorem scanChars_blank {c : Char} (h : isBlank c = true) (cs : List Char) :
    scanChars (c :: cs) = .whitespace :: scanChars (cs.dropWhile isBlank) := by
  rw [scanChars_of_ne_nil (by simp), next_of_isBlank h]

end Token

end SelectQuery
