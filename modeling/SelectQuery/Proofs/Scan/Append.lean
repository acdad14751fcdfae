import Mathlib.Algebra.Group.Nat.Even
import Mathlib.Data.List.Basic
import SelectQuery.Proofs.Scan.Piece

/-!
# Cutting a text with another one behind it

Whether a text can be cut without looking at what follows depends on its quotes. With an even number
of them every quote has its partner, and only a run at the seam can go on: the tokens of the two texts
follow each other (`scanChars_append`), but for a run of blanks that both have a part of
(`scanChars_append_blank`). With an odd number the last quote takes in the text that follows, up to
the next quote (`scanChars_append_unclosed`). Together they are the law of `scan_append`.
-/

namespace SelectQuery.Token

variable {w rest cs ds : List Char} {t : Token}

/-! ## Quotes -/

theorem count_quote_of_all {p : Char → Bool} (hp : p '\'' = false) (hw : ∀ c ∈ w, p c = true) :
    w.count '\'' = 0 := by
  refine List.count_eq_zero.2 fun h => ?_
  rw [hw _ h] at hp
  cases hp

theorem Piece.even_count_or (h : Piece w rest t) :
    Even (w.count '\'') ∨
      rest = [] ∧ ∃ q, '\'' ∉ q ∧ w = '\'' :: q ∧ t = .quoted (String.ofList q) := by
  cases h with
  | dot => exact .inl (by decide)
  | comma => exact .inl (by decide)
  | equal => exact .inl (by decide)
  | blanks _ hw _ => exact .inl (by simp [count_quote_of_all isBlank_quote hw])
  | word _ hw _ => exact .inl (by simp [count_quote_of_all isWordChar_quote hw])
  | quoted hq => exact .inl ⟨1, by simp [List.count_eq_zero.2 hq]⟩
  | unclosed hq => exact .inr ⟨rfl, _, hq, rfl, rfl⟩

theorem odd_count_unclosed {q : List Char} (hq : '\'' ∉ q) : ¬Even (('\'' :: q).count '\'') := by
  simp [List.count_eq_zero.2 hq]

theorem even_count_append (hw : Even (w.count '\'')) :
    Even ((w ++ rest).count '\'') ↔ Even (rest.count '\'') := by
  simp [List.count_append, Nat.even_add, hw]

/-! ## The seam -/

/-- No run goes on from one text into the next. -/
def Apart (cs ds : List Char) : Prop :=
  ∀ a ∈ cs.getLast?, ∀ b ∈ ds.head?,
    ¬(isBlank a = true ∧ isBlank b = true) ∧ ¬(isWordChar a = true ∧ isWordChar b = true)

theorem Apart.of_append (h : Apart (w ++ rest) ds) : Apart rest ds := by
  intro a ha
  refine h a ?_
  rw [Option.mem_def] at ha ⊢
  simp [List.getLast?_append, ha]

theorem apart_of_blank {c : Char} (hc : isBlank c = true)
    (hlast : ∀ a ∈ cs.getLast?, isBlank a = false) : Apart cs (c :: ds) := by
  intro a ha b hb
  cases hb
  have hword := isWordChar_of_isBlank hc
  simp [hlast a ha, hword]

theorem head_append {p : Char → Bool} (hrest : ∀ c ∈ rest.head?, p c = false)
    (hds : rest = [] → ∀ c ∈ ds.head?, p c = false) : ∀ c ∈ (rest ++ ds).head?, p c = false := by
  cases rest with
  | nil => exact hds rfl
  | cons c cs => simpa using hrest

/-- A piece with text behind it stays a piece, whatever follows that text. -/
theorem Piece.append_right (h : Piece w rest t) (hne : rest ≠ []) (ds : List Char) :
    Piece w (rest ++ ds) t := by
  cases h with
  | dot => exact .dot
  | comma => exact .comma
  | equal => exact .equal
  | blanks hnil hw hrest => exact .blanks hnil hw (head_append hrest fun he => absurd he hne)
  | word hnil hw hrest => exact .word hnil hw (head_append hrest fun he => absurd he hne)
  | quoted hq => exact .quoted hq
  | unclosed hq => exact absurd rfl hne

theorem Piece.of_apart (h : Piece w [] t) (heven : Even (w.count '\'')) (hap : Apart w ds) :
    Piece w ds t := by
  have hlast : ∀ {p : Char → Bool}, w ≠ [] → (∀ c ∈ w, p c = true) →
      ∃ a ∈ w.getLast?, p a = true := fun hne hw =>
    ⟨_, List.getLast?_eq_some_getLast hne, hw _ (List.getLast_mem hne)⟩
  cases h with
  | dot => exact .dot
  | comma => exact .comma
  | equal => exact .equal
  | blanks hne hw _ =>
    obtain ⟨a, ha, hblank⟩ := hlast hne hw
    exact .blanks hne hw fun b hb => by simpa using fun hb' => (hap a ha b hb).1 ⟨hblank, hb'⟩
  | word hne hw _ =>
    obtain ⟨a, ha, hword⟩ := hlast hne hw
    exact .word hne hw fun b hb => by simpa using fun hb' => (hap a ha b hb).2 ⟨hword, hb'⟩
  | quoted hq => exact .quoted hq
  | unclosed hq => exact absurd heven (odd_count_unclosed hq)

/-! ## The tokens of two texts -/

/-- **Two texts are cut one after the other** if the first has its quotes in pairs and no run goes
on at the seam. -/
theorem scanChars_append (heven : Even (cs.count '\'')) (hap : Apart cs ds) :
    scanChars (cs ++ ds) = scanChars cs ++ scanChars ds := by
  induction cs using piece_induction with
  | nil => rw [scanChars_nil, List.nil_append, List.nil_append]
  | @piece w rest t hp ih =>
    obtain hw | ⟨rfl, q, hq, rfl, rfl⟩ := hp.even_count_or
    · have hp' : Piece w (rest ++ ds) t := by
        by_cases hne : rest = []
        · subst hne
          rw [List.append_nil] at hap
          exact hp.of_apart hw hap
        · exact hp.append_right hne ds
      rw [List.append_assoc, hp'.scanChars_eq, hp.scanChars_eq,
        ih ((even_count_append hw).1 heven) hap.of_append, List.cons_append]
    · rw [List.append_nil] at heven
      exact absurd heven (odd_count_unclosed hq)

theorem Piece.blanks_of_last (h : Piece w [] t) (heven : Even (w.count '\''))
    (hlast : ∃ a ∈ w.getLast?, isBlank a = true) :
    t = .whitespace ∧ ∀ c ∈ w, isBlank c = true := by
  obtain ⟨a, ha, hblank⟩ := hlast
  cases h with
  | blanks _ hw _ => exact ⟨rfl, hw⟩
  | word _ hw _ =>
    have := hw a (List.mem_of_getLast? ha)
    rw [isWordChar_of_isBlank hblank] at this
    cases this
  | unclosed hq => exact absurd heven (odd_count_unclosed hq)
  | quoted hq =>
    rw [List.getLast?_cons, List.getLast?_concat] at ha
    cases ha
    cases hblank
  | _ =>
    cases ha
    cases hblank

/-- **A run of blanks that two texts share is a single token**, that of the first text. -/
theorem scanChars_append_blank (heven : Even (cs.count '\''))
    (hlast : ∃ a ∈ cs.getLast?, isBlank a = true) :
    scanChars (cs ++ ds) = scanChars cs ++ scanChars (ds.dropWhile isBlank) := by
  induction cs using piece_induction with
  | nil => simp at hlast
  | @piece w rest t hp ih =>
    obtain hw | ⟨rfl, q, hq, rfl, rfl⟩ := hp.even_count_or
    · by_cases hne : rest = []
      · subst hne
        rw [List.append_nil] at hlast
        obtain ⟨rfl, hblank⟩ := hp.blanks_of_last hw hlast
        have hrun : Piece (w ++ ds.takeWhile isBlank) (ds.dropWhile isBlank) .whitespace := by
          refine .blanks (by simp [hp.ne_nil]) (fun c hc => ?_) head_dropWhile
          rcases List.mem_append.1 hc with hc | hc
          · exact hblank c hc
          · exact List.mem_takeWhile_imp hc
        have := hrun.scanChars_eq
        rw [List.append_assoc, List.takeWhile_append_dropWhile] at this
        rw [hp.scanChars_eq, scanChars_nil, List.append_nil, this]
        rfl
      · have hlast' : ∃ a ∈ rest.getLast?, isBlank a = true := by
          rwa [List.getLast?_append, List.getLast?_eq_some_getLast hne, Option.some_or,
            ← List.getLast?_eq_some_getLast hne] at hlast
        rw [List.append_assoc, (hp.append_right hne ds).scanChars_eq, hp.scanChars_eq,
          ih ((even_count_append hw).1 heven) hlast', List.cons_append]
    · rw [List.append_nil] at heven
      exact absurd heven (odd_count_unclosed hq)

theorem exists_last_quote (hodd : ¬Even (cs.count '\'')) :
    ∃ before q, cs = before ++ '\'' :: q ∧ '\'' ∉ q ∧ Even (before.count '\'') := by
  have hmem : '\'' ∈ cs.reverse := by
    rw [List.mem_reverse]
    by_contra h
    rw [List.count_eq_zero.2 h] at hodd
    exact hodd Even.zero
  obtain ⟨q, before, hcs, hq⟩ := List.eq_append_cons_of_mem hmem
  have hsplit : cs = before.reverse ++ '\'' :: q.reverse := by
    rw [← List.reverse_reverse cs, hcs]
    simp
  have hq' : '\'' ∉ q.reverse := by simpa using hq
  refine ⟨before.reverse, q.reverse, hsplit, hq', ?_⟩
  rw [hsplit, List.count_append, List.count_cons_self, List.count_eq_zero.2 hq'] at hodd
  simpa [Nat.even_add_one] using hodd

theorem scanChars_append_quote (heven : Even (cs.count '\'')) :
    scanChars (cs ++ '\'' :: ds) = scanChars cs ++ scanChars ('\'' :: ds) := by
  refine scanChars_append heven ?_
  intro a _ b hb
  cases hb
  simp [isBlank_quote, isWordChar_quote]

theorem scanChars_unclosed {q : List Char} (hq : '\'' ∉ q) :
    scanChars ('\'' :: q) = [.quoted (String.ofList q)] := by
  have hpiece := (Piece.unclosed hq).scanChars_eq
  rwa [List.append_nil, scanChars_nil] at hpiece

/-- **A quote without a partner takes in what follows.** It belongs to the last token of the text. -/
theorem scanChars_append_unclosed (hodd : ¬Even (cs.count '\'')) :
    ∃ ts q, '\'' ∉ q ∧ scanChars cs = ts ++ [.quoted (String.ofList q)] ∧
      ∀ ds, scanChars (cs ++ ds) = ts ++ scanChars ('\'' :: (q ++ ds)) := by
  obtain ⟨before, q, rfl, hq, heven⟩ := exists_last_quote hodd
  refine ⟨scanChars before, q, hq, ?_, fun ds => ?_⟩
  · rw [scanChars_append_quote heven, scanChars_unclosed hq]
  · rw [List.append_assoc, List.cons_append, scanChars_append_quote heven]

theorem scanChars_dropWhile_blank (hhead : ∃ b ∈ ds.head?, isBlank b = true) :
    scanChars (ds.dropWhile isBlank) = (scanChars ds).tail := by
  obtain ⟨b, hb, hblank⟩ := hhead
  obtain ⟨ds, rfl⟩ := List.head?_eq_some_iff.1 hb
  rw [scanChars_blank hblank, List.tail_cons, List.dropWhile_cons_of_pos hblank]

/-- **Cutting a text with another one behind it.** With the quotes of the first text in pairs, the tokens
of both follow each other, unless a run goes on at the seam; a run of blanks that does is a single token,
that of the first text. With a quote left over, the first text ends with quoted text, and what follows is
cut as if it stood behind that quote. -/
theorem scan_append (text more : String) :
    (Even (text.toList.count '\'') →
      (Apart text.toList more.toList → scan (text ++ more) = scan text ++ scan more) ∧
        ((∃ a ∈ text.toList.getLast?, isBlank a = true) →
          (∃ b ∈ more.toList.head?, isBlank b = true) →
            scan (text ++ more) = scan text ++ (scan more).tail)) ∧
      (¬Even (text.toList.count '\'') → ∃ q, (scan text).getLast? = some (.quoted q) ∧
        scan (text ++ more) = (scan text).dropLast ++ scan ("'" ++ q ++ more)) := by
  refine ⟨fun heven => ⟨fun hap => ?_, fun hlast hhead => ?_⟩, fun hodd => ?_⟩
  · rw [scan, String.toList_append]
    exact scanChars_append heven hap
  · rw [scan, String.toList_append, scanChars_append_blank heven hlast,
      scanChars_dropWhile_blank hhead]
    rfl
  · obtain ⟨ts, q, -, hscan, happend⟩ := scanChars_append_unclosed hodd
    have htext : ("'" ++ String.ofList q ++ more).toList = '\'' :: (q ++ more.toList) := by simp
    refine ⟨String.ofList q, ?_, ?_⟩
    · rw [scan, hscan, List.getLast?_concat]
    · rw [scan, scan, scan, String.toList_append, happend, hscan, List.dropLast_concat, htext]

/-- A word behind a quote, a run of blanks on both sides of the seam, and a quote that the second text
closes. -/
theorem scan_append_quotes :
    scan ("a 'b'" ++ "c") = scan "a 'b'" ++ scan "c" ∧
      scan ("a.'b' \t" ++ "\n c") = scan "a.'b' \t" ++ (scan "\n c").tail ∧
      ∃ q, (scan "a = 'b  ").getLast? = some (.quoted q) ∧
        scan ("a = 'b  " ++ " c' d") = (scan "a = 'b  ").dropLast ++ scan ("'" ++ q ++ " c' d") := by
  refine ⟨((scan_append "a 'b'" "c").1 (by decide)).1 ?_,
    ((scan_append "a.'b' \t" "\n c").1 (by decide)).2 ?_ ?_,
    (scan_append "a = 'b  " " c' d").2 (by decide)⟩
  · simp [Apart, isBlank, isWordChar, isMark]
  · exact ⟨'\t', by simp, by decide⟩
  · exact ⟨'\n', by simp, by decide⟩

/-! ## A space behind a text -/

theorem Piece.isBlank_of_whitespace (h : Piece w rest .whitespace) : ∀ c ∈ w, isBlank c = true := by
  generalize ht : whitespace = t at h
  cases h with
  | blanks _ hw _ => exact hw
  | word =>
    unfold ofWord at ht
    split at ht <;> cases ht
  | _ => cases ht

/-- With its quotes in pairs, a text ends with a blank just if its last token is a run of blanks. -/
theorem getLast?_scanChars_eq_whitespace_iff (heven : Even (cs.count '\'')) :
    (scanChars cs).getLast? = some .whitespace ↔ ∃ a ∈ cs.getLast?, isBlank a = true := by
  induction cs using piece_induction with
  | nil => simp [scanChars_nil]
  | @piece w rest t hp ih =>
    obtain hw | ⟨rfl, q, hq, rfl, rfl⟩ := hp.even_count_or
    · by_cases hne : rest = []
      · subst hne
        rw [hp.scanChars_eq, scanChars_nil, List.append_nil]
        refine ⟨fun ht => ?_, fun hlast => ?_⟩
        · cases ht
          exact ⟨_, List.getLast?_eq_some_getLast hp.ne_nil,
            hp.isBlank_of_whitespace _ (List.getLast_mem hp.ne_nil)⟩
        · rw [(hp.blanks_of_last hw hlast).1]
          rfl
      · have hscan : scanChars rest ≠ [] := by simp [scanChars_of_ne_nil hne]
        rw [hp.scanChars_eq, ← List.singleton_append, List.getLast?_append_of_ne_nil _ hscan,
          List.getLast?_append_of_ne_nil _ hne, ih ((even_count_append hw).1 heven)]
    · rw [List.append_nil] at heven
      exact absurd heven (odd_count_unclosed hq)

/-- **A space behind a text** with its quotes in pairs is a token of its own, unless it goes on with the
run of blanks that the text ends with. -/
theorem scanChars_append_space (heven : Even (cs.count '\'')) : scanChars (cs ++ [' ']) =
    scanChars cs ++ if (scanChars cs).getLast? = some .whitespace then [] else [.whitespace] := by
  by_cases hlast : ∃ a ∈ cs.getLast?, isBlank a = true
  · rw [if_pos ((getLast?_scanChars_eq_whitespace_iff heven).2 hlast),
      scanChars_append_blank heven hlast, List.dropWhile_cons_of_pos isBlank_space,
      List.dropWhile_nil, scanChars_nil]
  · have hapart : Apart cs [' '] :=
      apart_of_blank isBlank_space fun a ha => by simpa using fun hblank => hlast ⟨a, ha, hblank⟩
    rw [if_neg (mt (getLast?_scanChars_eq_whitespace_iff heven).1 hlast),
      scanChars_append heven hapart, scanChars_blank isBlank_space, List.dropWhile_nil, scanChars_nil]

/-! ## A text between two of its tokens -/

theorem Piece.of_append (h : Piece w (rest ++ ds) t) : Piece w rest t := by
  have hhead : ∀ {p : Char → Bool}, (∀ c ∈ (rest ++ ds).head?, p c = false) →
      ∀ c ∈ rest.head?, p c = false := fun hds c hc => hds c (by cases rest <;> simp_all)
  generalize hrest : rest ++ ds = es at h hhead
  cases h with
  | dot => exact .dot
  | comma => exact .comma
  | equal => exact .equal
  | blanks hne hw hes => exact .blanks hne hw (hhead hes)
  | word hne hw hes => exact .word hne hw (hhead hes)
  | quoted hq => exact .quoted hq
  | unclosed hq =>
    obtain ⟨rfl, -⟩ := List.append_eq_nil_iff.1 hrest
    exact .unclosed hq

/-- **Each token has its place in the text.** The tokens in front of it are those of the text in front of
that place, and the same goes for the tokens behind it. -/
theorem exists_piece_of_scanChars_eq {us vs : List Token} (h : scanChars cs = us ++ t :: vs) :
    ∃ before w after, cs = before ++ (w ++ after) ∧ scanChars before = us ∧ Piece w after t ∧
      scanChars after = vs := by
  induction us generalizing cs with
  | nil =>
    have hne : cs ≠ [] := by
      rintro rfl
      simp [scanChars_nil] at h
    obtain ⟨w, after, u, rfl, hp⟩ := exists_piece hne
    rw [hp.scanChars_eq] at h
    cases h
    exact ⟨[], w, after, rfl, scanChars_nil, hp, rfl⟩
  | cons u us ih =>
    have hne : cs ≠ [] := by
      rintro rfl
      simp [scanChars_nil] at h
    obtain ⟨w, rest, u', rfl, hp⟩ := exists_piece hne
    rw [hp.scanChars_eq, List.cons_append] at h
    obtain ⟨rfl, htail⟩ := List.cons.inj h
    obtain ⟨before, w', after, rfl, hbefore, hp', hafter⟩ := ih htail
    exact ⟨w ++ before, w', after, by simp, by rw [hp.of_append.scanChars_eq, hbefore], hp', hafter⟩

end SelectQuery.Token
