import Mathlib.Data.List.Chain
import SelectQuery.Proofs.Scan.Piece

/-!
# What a text can be cut into

The tokens of a text are never the end of input and never operators. A word is a name (`IsName`), a
keyword is written as one, and quoted text holds no quote (`proper_of_mem_scanChars`). Neither two runs
of blanks nor two words ever stand next to each other (`isChain_scanChars`).
-/

namespace SelectQuery

/-- A text that is a word wherever it stands alone: none of its characters ends a word, and it spells
no keyword. -/
structure IsName (text : String) : Prop where
  ne_empty : text ≠ ""
  plain : ∀ c ∈ text.toList, c ∉ [' ', '\t', '\n', '.', ',', '\'', '=']
  not_keyword : Keyword.ofText? text = none

instance (text : String) : Decidable (IsName text) :=
  decidable_of_iff (text ≠ "" ∧ text.toList.all isWordChar = true ∧ Keyword.ofText? text = none)
    ⟨fun h => ⟨h.1, fun c hc => isWordChar_iff_not_mem.1 (List.all_eq_true.1 h.2.1 c hc), h.2.2⟩,
      fun h => ⟨h.1, List.all_eq_true.2 fun c hc => isWordChar_iff_not_mem.2 (h.2 c hc), h.3⟩⟩

example : IsName "table1" ∧ ¬IsName "From" ∧ ¬IsName "a.b" := by decide

theorem IsName.isWordChar {text : String} (h : IsName text) :
    ∀ c ∈ text.toList, isWordChar c = true :=
  fun c hc => isWordChar_iff_not_mem.2 (h.plain c hc)

namespace Token

theorem ofWord_of_isName {text : String} (h : IsName text) : ofWord text = .word text := by
  simp [ofWord, h.not_keyword]

theorem ofWord_of_keyword {text : String} {k : Keyword} (h : Keyword.ofText? text = some k) :
    ofWord text = .keyword k text := by
  simp [ofWord, h]

/-! ## The tokens one by one -/

/-- A token that some text is cut into. -/
def Proper : Token → Prop
  | .word text => IsName text
  | .quoted text => '\'' ∉ text.toList
  | .keyword k text => Keyword.ofText? text = some k
  | .eof | .operator _ => False
  | .whitespace | .dot | .comma | .equal => True

variable {w rest cs : List Char} {t : Token}

theorem proper_ofWord (hne : w ≠ []) (hw : ∀ c ∈ w, isWordChar c = true) :
    (ofWord (String.ofList w)).Proper := by
  cases hk : Keyword.ofText? (String.ofList w) with
  | some k =>
    rw [ofWord_of_keyword hk]
    exact hk
  | none =>
    have hname : IsName (String.ofList w) :=
      ⟨by simpa using hne, by simpa using fun c hc => isWordChar_iff_not_mem.1 (hw c hc), hk⟩
    rw [ofWord_of_isName hname]
    exact hname

theorem Piece.proper (h : Piece w rest t) : t.Proper := by
  cases h with
  | word hne hw _ => exact proper_ofWord hne hw
  | quoted hq => simpa [Proper] using hq
  | unclosed hq => simpa [Proper] using hq
  | _ => trivial

theorem proper_of_mem_scanChars : t ∈ scanChars cs → t.Proper := by
  induction cs using piece_induction with
  | nil => simp [scanChars_nil]
  | piece hp ih =>
    rw [hp.scanChars_eq, List.mem_cons]
    rintro (rfl | ht)
    · exact hp.proper
    · exact ih ht

theorem ne_eof_of_mem_scanChars (h : t ∈ scanChars cs) : t ≠ .eof := by
  rintro rfl
  exact proper_of_mem_scanChars h

/-! ## Neighbouring tokens -/

/-- The two kinds of tokens that are runs of characters of one class. -/
inductive RunKind where
  | blanks
  | bare
  deriving DecidableEq

def RunKind.has : RunKind → Char → Bool
  | .blanks => isBlank
  | .bare => isWordChar

def run? : Token → Option RunKind
  | .whitespace => some .blanks
  | .word _ | .keyword _ _ => some .bare
  | _ => none

variable {k : RunKind}

theorem run?_ofWord (text : String) : (ofWord text).run? = some .bare := by
  unfold ofWord
  split <;> rfl

theorem Piece.head_of_run? (h : Piece w rest t) (ht : t.run? = some k) :
    ∀ c ∈ rest.head?, k.has c = false := by
  cases h with
  | blanks _ _ hrest =>
    cases ht
    exact hrest
  | word _ _ hrest =>
    rw [run?_ofWord] at ht
    cases ht
    exact hrest
  | _ => cases ht

theorem Piece.has_head_iff (h : Piece w rest t) {c : Char} (hc : c ∈ w.head?) :
    k.has c = true ↔ t.run? = some k := by
  cases h with
  | blanks _ hw _ =>
    have hblank : isBlank c = true := hw c (List.mem_of_mem_head? hc)
    cases k <;> simp [RunKind.has, run?, hblank, isWordChar_of_isBlank]
  | word _ hw _ =>
    have hword : isWordChar c = true := hw c (List.mem_of_mem_head? hc)
    have hblank : isBlank c = false := (isWordChar_iff.1 hword).1
    cases k <;> simp [RunKind.has, run?_ofWord, hword, hblank]
  | _ =>
    cases hc
    cases k <;> simp [RunKind.has, run?, isBlank, isWordChar, isMark]

/-- A text with a piece in front starts with a character of a class just if the piece is a run of that
class, whatever follows it. -/
theorem Piece.run?_of_head (h : Piece w rest t) {c : Char} (hc : c ∈ (w ++ cs).head?)
    (hhas : k.has c = true) : t.run? = some k := by
  obtain ⟨d, w, rfl⟩ := List.exists_cons_of_ne_nil h.ne_nil
  cases hc
  exact (h.has_head_iff rfl).1 hhas

theorem exists_head_of_run? (h : t ∈ (scanChars cs).head?) (ht : t.run? = some k) :
    ∃ c ∈ cs.head?, k.has c = true := by
  by_cases hne : cs = []
  · subst hne
    simp [scanChars_nil] at h
  obtain ⟨w, rest, u, rfl, hp⟩ := exists_piece hne
  rw [hp.scanChars_eq] at h
  cases h
  obtain ⟨c, w, rfl⟩ := List.exists_cons_of_ne_nil hp.ne_nil
  exact ⟨c, rfl, (hp.has_head_iff rfl).2 ht⟩

/-- **A run is a single token**, so two runs of a kind are never neighbours. -/
theorem isChain_scanChars (cs : List Char) :
    (scanChars cs).IsChain fun a b => ∀ k, a.run? = some k → b.run? ≠ some k := by
  induction cs using piece_induction with
  | nil =>
    rw [scanChars_nil]
    exact .nil
  | @piece w rest t hp ih =>
    rw [hp.scanChars_eq]
    refine List.isChain_cons.2 ⟨?_, ih⟩
    intro u hu k ht hu'
    obtain ⟨c, hc, hhas⟩ := exists_head_of_run? hu hu'
    rw [hp.head_of_run? ht c hc] at hhas
    cases hhas

/-- No two whitespace tokens next to each other. -/
def Thin (ts : List Token) : Prop :=
  ts.IsChain fun a b => ¬(a = .whitespace ∧ b = .whitespace)

instance (ts : List Token) : Decidable (Thin ts) :=
  inferInstanceAs (Decidable (ts.IsChain fun a b => ¬(a = .whitespace ∧ b = .whitespace)))

theorem thin_scanChars (cs : List Char) : Thin (scanChars cs) := by
  refine (isChain_scanChars cs).imp ?_
  rintro a b hruns ⟨rfl, rfl⟩
  exact hruns .blanks rfl rfl

def isBare : Token → Bool
  | .word _ | .keyword _ _ => true
  | _ => false

theorem isBare_iff : t.isBare = true ↔ t.run? = some .bare := by
  cases t <;> simp [isBare, run?]

theorem run?_eq_blanks_iff : t.run? = some .blanks ↔ t = .whitespace := by
  cases t <;> simp [run?]

end Token

end SelectQuery
