import SelectQuery.Proofs.Scan.Image

/-!
# Lexemes

Cutting a text into tokens loses nothing of it. The text is its lexemes one after the other, and each
lexeme gives one token, so that each character belongs to exactly one token. A list of lexemes is a cut of
a text (`IsCut`) if no two runs of a kind are neighbours and only the last lexeme may be a quote without a
partner. These rules say nothing of how the text is gone through, and still they leave no choice: every
text has exactly one cut, and its tokens are those of the lexemes (`Token.existsUnique_isCut`).

What a cut has in front is a piece (`IsCut.piece`), and a text has only one piece in front.
-/

namespace SelectQuery

open Token

/-- A stretch of text that gives a token, by its kind. -/
inductive Lexeme where
  | dot
  | comma
  | equal
  /-- A run of blanks. -/
  | blanks (run : List Char)
  /-- A run of characters without blanks and marks. -/
  | word (run : List Char)
  /-- What two quotes enclose. -/
  | quoted (inner : List Char)
  /-- What follows a quote without a partner. -/
  | unclosed (inner : List Char)
  deriving DecidableEq

namespace Lexeme

/-- The characters of the lexeme, its quotes included. -/
def text : Lexeme → List Char
  | .dot => ['.']
  | .comma => [',']
  | .equal => ['=']
  | .blanks run => run
  | .word run => run
  | .quoted inner => '\'' :: (inner ++ ['\''])
  | .unclosed inner => '\'' :: inner

def token : Lexeme → Token
  | .dot => .dot
  | .comma => .comma
  | .equal => .equal
  | .blanks _ => .whitespace
  | .word run =>
    match Keyword.ofText? (String.ofList run) with
    | some k => .keyword k (String.ofList run)
    | none => .word (String.ofList run)
  | .quoted inner => .quoted (String.ofList inner)
  | .unclosed inner => .quoted (String.ofList inner)

/-- The lexeme is made of the characters that its kind allows, and runs are not empty. -/
def WellFormed : Lexeme → Prop
  | .dot | .comma | .equal => True
  | .blanks run => run ≠ [] ∧ ∀ c ∈ run, c ∈ [' ', '\t', '\n']
  | .word run => run ≠ [] ∧ ∀ c ∈ run, c ∉ [' ', '\t', '\n', '.', ',', '\'', '=']
  | .quoted inner | .unclosed inner => '\'' ∉ inner

def run? : Lexeme → Option RunKind
  | .blanks _ => some .blanks
  | .word _ => some .bare
  | _ => none

def isUnclosed : Lexeme → Bool
  | .unclosed _ => true
  | _ => false

end Lexeme

/-- The lexemes are a cut of the text: they make up all of it, in their order, and neither of two
neighbours is the start of a longer run. -/
structure IsCut (text : List Char) (ls : List Lexeme) : Prop where
  covers : ls.flatMap Lexeme.text = text
  wellFormed : ∀ l ∈ ls, l.WellFormed
  /-- A quote without a partner comes last. -/
  closed : ∀ l ∈ ls.dropLast, l.isUnclosed = false
  /-- No two runs of blanks are neighbours, and no two words. -/
  apart : ls.IsChain fun a b => ∀ k, a.run? = some k → b.run? ≠ some k

variable {l m : Lexeme} {ls ms : List Lexeme} {cs w rest : List Char} {t : Token} {k : RunKind}

/-! ## Lexemes and pieces -/

namespace Lexeme

theorem token_word (run : List Char) : (word run).token = ofWord (String.ofList run) := by
  cases h : Keyword.ofText? (String.ofList run) <;> simp only [token, ofWord, h]

theorem run?_token (l : Lexeme) : l.token.run? = l.run? := by
  cases l with
  | word run =>
    rw [token_word, run?_ofWord]
    rfl
  | _ => rfl

theorem WellFormed.piece (h : l.WellFormed) (hclosed : l.isUnclosed = true → rest = [])
    (hrest : ∀ k, l.run? = some k → ∀ c ∈ rest.head?, k.has c = false) :
    Piece l.text rest l.token := by
  cases l with
  | dot => exact .dot
  | comma => exact .comma
  | equal => exact .equal
  | blanks run => exact .blanks h.1 (fun c hc => isBlank_iff.2 (h.2 c hc)) (hrest .blanks rfl)
  | word run =>
    rw [token_word]
    exact .word h.1 (fun c hc => isWordChar_iff_not_mem.2 (h.2 c hc)) (hrest .bare rfl)
  | quoted inner => exact .quoted h
  | unclosed inner =>
    rw [hclosed rfl]
    exact .unclosed h

theorem WellFormed.text_ne_nil (h : l.WellFormed) : l.text ≠ [] :=
  (h.piece (fun _ => rfl) (by simp)).ne_nil

/-- The first character of a text tells which kind of run its first lexeme is. -/
theorem WellFormed.run?_of_head (h : l.WellFormed) {c : Char} (hc : c ∈ (l.text ++ rest).head?)
    (hhas : k.has c = true) : l.run? = some k := by
  have hpiece : Piece l.text [] l.token := h.piece (fun _ => rfl) (by simp)
  exact (run?_token l).symm.trans (hpiece.run?_of_head hc hhas)

theorem exists_of_piece (h : Piece w rest t) : ∃ l : Lexeme, l.WellFormed ∧ l.text = w ∧
    l.token = t ∧ (l.isUnclosed = true → rest = []) := by
  cases h with
  | dot => exact ⟨.dot, trivial, rfl, rfl, nofun⟩
  | comma => exact ⟨.comma, trivial, rfl, rfl, nofun⟩
  | equal => exact ⟨.equal, trivial, rfl, rfl, nofun⟩
  | blanks hne hw => exact ⟨.blanks w, ⟨hne, fun c hc => isBlank_iff.1 (hw c hc)⟩, rfl, rfl, nofun⟩
  | word hne hw =>
    exact ⟨.word w, ⟨hne, fun c hc => isWordChar_iff_not_mem.1 (hw c hc)⟩, rfl, token_word w, nofun⟩
  | @quoted q _ hq => exact ⟨.quoted q, hq, rfl, rfl, nofun⟩
  | @unclosed q hq => exact ⟨.unclosed q, hq, rfl, rfl, fun _ => rfl⟩

theorem eq_of_text_of_token (htext : l.text = m.text) (htoken : l.token = m.token) : l = m := by
  have hrun : l.run? = m.run? := by rw [← run?_token, htoken, run?_token]
  cases l <;> cases m <;> simp_all [text, token, run?, String.ofList_inj]

end Lexeme

/-! ## Cuts -/

namespace IsCut

theorem nil : IsCut [] [] := ⟨rfl, by simp, by simp, .nil⟩

theorem eq_nil (h : IsCut [] ls) : ls = [] := by
  cases ls with
  | nil => rfl
  | cons l ls =>
    have htext := (List.append_eq_nil_iff.1 h.covers).1
    exact absurd htext (h.wellFormed l (by simp)).text_ne_nil

theorem tail (h : IsCut cs (l :: ls)) : IsCut (ls.flatMap Lexeme.text) ls where
  covers := rfl
  wellFormed m hm := h.wellFormed m (List.mem_cons_of_mem l hm)
  closed m hm := h.closed m (by cases ls <;> simp_all)
  apart := (List.isChain_cons.1 h.apart).2

/-- **A cut has a piece in front**, since no run goes on into the next lexeme. -/
theorem piece (h : IsCut cs (l :: ls)) : Piece l.text (ls.flatMap Lexeme.text) l.token := by
  have hl : l.WellFormed := h.wellFormed l (by simp)
  cases ls with
  | nil => exact hl.piece (fun _ => rfl) (by simp)
  | cons m ms =>
    have hm : m.WellFormed := h.wellFormed m (by simp)
    refine hl.piece (fun hopen => ?_) fun k hk c hc => ?_
    · rw [h.closed l (by simp)] at hopen
      cases hopen
    · by_contra hhas
      rw [Bool.not_eq_false] at hhas
      exact (List.isChain_cons.1 h.apart).1 m rfl k hk (hm.run?_of_head hc hhas)

/-- **A piece in front of a cut** makes a longer cut. -/
theorem cons (h : IsCut rest ls) (hl : l.WellFormed) (hp : Piece l.text rest l.token)
    (hclosed : l.isUnclosed = true → rest = []) : IsCut (l.text ++ rest) (l :: ls) := by
  obtain rfl := h.covers
  refine ⟨rfl, List.forall_mem_cons.2 ⟨hl, h.wellFormed⟩, ?_, ?_⟩
  · cases ls with
    | nil => simp
    | cons m ms =>
      have hne : (m :: ms).flatMap Lexeme.text ≠ [] := fun he => nomatch (he ▸ h).eq_nil
      have hl' : l.isUnclosed = false := by simpa using mt hclosed hne
      exact List.forall_mem_cons.2 ⟨hl', h.closed⟩
  · refine List.isChain_cons.2 ⟨fun m hm k hk hk' => ?_, h.apart⟩
    obtain ⟨ms, rfl⟩ := List.head?_eq_some_iff.1 hm
    obtain ⟨c, w, hw⟩ := List.exists_cons_of_ne_nil h.piece.ne_nil
    have hhas : k.has c = true :=
      (h.piece.has_head_iff (by simp [hw])).2 ((Lexeme.run?_token m).trans hk')
    have hhas' : k.has c = false := by
      refine hp.head_of_run? ((Lexeme.run?_token l).trans hk) c ?_
      simp [hw]
    rw [hhas] at hhas'
    cases hhas'

/-- **The tokens of a text are those of its lexemes.** -/
theorem scanChars_eq (h : IsCut cs ls) : scanChars cs = ls.map Lexeme.token := by
  obtain rfl := h.covers
  induction ls with
  | nil => exact scanChars_nil
  | cons l ls ih => rw [List.flatMap_cons, h.piece.scanChars_eq, ih h.tail, List.map_cons]

/-- **Two cuts of a text are the same**, lexeme by lexeme. -/
theorem unique (h : IsCut cs ls) (h' : IsCut cs ms) : ls = ms := by
  induction ls generalizing cs ms with
  | nil =>
    obtain rfl := h.covers
    exact h'.eq_nil.symm
  | cons l ls ih =>
    cases ms with
    | nil =>
      obtain rfl := h'.covers
      exact h.eq_nil
    | cons m ms =>
      have hnext := h.piece.next_eq
      have hnext' := h'.piece.next_eq
      have hcs : l.text ++ ls.flatMap Lexeme.text = m.text ++ ms.flatMap Lexeme.text :=
        h.covers.trans h'.covers.symm
      rw [hcs, hnext'] at hnext
      obtain ⟨htoken, hrest⟩ := Prod.mk.inj hnext
      rw [hrest] at hcs
      obtain rfl := Lexeme.eq_of_text_of_token (List.append_cancel_right hcs) htoken.symm
      rw [ih h.tail (hrest ▸ h'.tail)]

end IsCut

theorem exists_isCut (cs : List Char) : ∃ ls, IsCut cs ls := by
  induction cs using piece_induction with
  | nil => exact ⟨[], .nil⟩
  | piece hp ih =>
    obtain ⟨ls, hls⟩ := ih
    obtain ⟨l, hl, rfl, rfl, hclosed⟩ := Lexeme.exists_of_piece hp
    exact ⟨l :: ls, hls.cons hl hp hclosed⟩

namespace Token

/-- **Every text has exactly one cut, and its tokens are those of the lexemes in it**, one for each and in
their order. -/
theorem existsUnique_isCut (text : String) :
    ∃ ls, (∀ ms, IsCut text.toList ms ↔ ms = ls) ∧ scan text = ls.map Lexeme.token := by
  obtain ⟨ls, hls⟩ := exists_isCut text.toList
  refine ⟨ls, fun ms => ⟨fun h => h.unique hls, ?_⟩, hls.scanChars_eq⟩
  rintro rfl
  exact hls

example : IsCut "a\t '.''b".toList
    [.word ['a'], .blanks ['\t', ' '], .quoted ['.'], .unclosed ['b']] :=
  ⟨by simp [Lexeme.text], by simp [Lexeme.WellFormed], by simp [Lexeme.isUnclosed], by simp [Lexeme.run?]⟩

end Token

end SelectQuery
