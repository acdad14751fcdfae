import SelectQuery.Token

/-!
# Cutting text into tokens

Text is cut from left to right, each time taking the longest piece of one kind. `Token.next` takes
the first token off a text and returns the text after it; `Token.scan` goes on to the end. Every
text can be cut: a single quote without a partner runs to the end of the text.

The blanks are the space, the tab and the line feed. The marks are `.`, `,`, `=` and the single
quote. A maximal run of other characters is a word, and a keyword if it spells one.
-/

namespace SelectQuery

/-! ## Classes of characters -/

/-- The characters that separate words (`is_whitespace`). The carriage return is not one of them. -/
def isBlank (c : Char) : Bool := c = ' ' || c = '\t' || c = '\n'

/-- The characters that end a word and start a token of their own (`is_special`). -/
def isMark (c : Char) : Bool := c = '.' || c = ',' || c = '\'' || c = '='

/-- The characters that words are made of. -/
def isWordChar (c : Char) : Bool := !isBlank c && !isMark c

def isQuotable (c : Char) : Bool := c != '\''

theorem isWordChar_iff {c : Char} : isWordChar c = true ↔ isBlank c = false ∧ isMark c = false := by
  simp [isWordChar]

namespace Token

/-! ## One token -/

/-- A word that spells a keyword is that keyword, and keeps the way it was written (end of `word`). -/
def ofWord (text : String) : Token :=
  match Keyword.ofText? text with
  | some k => .keyword k text
  | none => .word text

/-- The first token of a text, and the text after it. The end of the text is met again and again.

This is what `next_token` does, seen from outside: its position in the text is the text after the token, and
the loops of `whitespace`, `quoted` and `word` are the longest runs that they take. `Cursor.next` follows
them step by step. -/
def next : List Char → Token × List Char
  | [] => (.eof, [])
  | '.' :: cs => (.dot, cs)
  | ',' :: cs => (.comma, cs)
  | '=' :: cs => (.equal, cs)
  | '\'' :: cs =>
    (.quoted (String.ofList (cs.takeWhile isQuotable)), (cs.dropWhile isQuotable).drop 1)
  | c :: cs =>
    if isBlank c then (.whitespace, cs.dropWhile isBlank)
    else (ofWord (String.ofList (c :: cs.takeWhile isWordChar)), cs.dropWhile isWordChar)

theorem ofWord_ne_eof (text : String) : ofWord text ≠ .eof := by
  unfold ofWord
  split <;> simp

/-- Every token but the end of the text takes at least one character. -/
theorem length_next_lt {cs : List Char} (h : cs ≠ []) : (next cs).2.length < cs.length := by
  have hd : ∀ (p : Char → Bool) (cs : List Char), (cs.dropWhile p).length ≤ cs.length :=
    fun p _ => (List.dropWhile_sublist p).length_le
  unfold next
  split
  · exact absurd rfl h
  · simp
  · simp
  · simp
  · rename_i cs
    have := hd isQuotable cs
    simp only [List.length_drop, List.length_cons]
    omega
  · rename_i c cs _ _ _ _
    split
    · have := hd isBlank cs
      simp only [List.length_cons]
      omega
    · have := hd isWordChar cs
      simp only [List.length_cons]
      omega

/-! ### Equations of `next` -/

theorem next_nil : next [] = (.eof, []) := rfl

theorem next_quote (cs : List Char) :
    next ('\'' :: cs) =
      (.quoted (String.ofList (cs.takeWhile isQuotable)), (cs.dropWhile isQuotable).drop 1) := rfl

theorem next_of_isBlank {c : Char} (h : isBlank c = true) (cs : List Char) :
    next (c :: cs) = (.whitespace, cs.dropWhile isBlank) := by
  simp only [isBlank, Bool.or_eq_true, decide_eq_true_eq] at h
  rcases h with (rfl | rfl) | rfl <;> rfl

theorem next_of_isWordChar {c : Char} (h : isWordChar c = true) (cs : List Char) :
    next (c :: cs) =
      (ofWord (String.ofList (c :: cs.takeWhile isWordChar)), cs.dropWhile isWordChar) := by
  rw [isWordChar_iff] at h
  obtain ⟨hb, hm⟩ := h
  simp only [isMark, Bool.or_eq_false_iff, decide_eq_false_iff_not] at hm
  obtain ⟨⟨⟨hdot, hcomma⟩, hquote⟩, hequal⟩ := hm
  rw [next] <;> simp_all

theorem next_fst_eq_eof_iff {cs : List Char} : (next cs).1 = .eof ↔ cs = [] := by
  constructor
  · intro h
    unfold next at h
    split at h <;> try contradiction
    · rfl
    · split at h
      · contradiction
      · simp [ofWord_ne_eof] at h
  · rintro rfl
    rfl

/-! ## All tokens -/

/-- The tokens of a text in order, without the end of the text. -/
def scanChars : List Char → List Token
  | [] => []
  | c :: cs =>
    let first := next (c :: cs)
    first.1 :: scanChars first.2
termination_by cs => cs.length
decreasing_by exact @length_next_lt (c :: cs) (List.cons_ne_nil c cs)

def scan (text : String) : List Token := scanChars text.toList

theorem scanChars_nil : scanChars [] = [] := by
  rw [scanChars]

theorem scanChars_of_ne_nil {cs : List Char} (h : cs ≠ []) :
    scanChars cs = (next cs).1 :: scanChars (next cs).2 := by
  cases cs with
  | nil => exact absurd rfl h
  | cons c cs => rw [scanChars]

end Token

end SelectQuery
