import SelectQuery.Token.Scan

/-!
# Lexers

A lexer hands out the tokens of a text one after the other. All it keeps is the text that is still
to be cut, so a lexer over what another one has left goes on where that one stopped. It can be asked
in three ways, mixed at will: for the next token, for the next element of a sequence that stops
before the end of the text, and for all that is left.
-/

namespace SelectQuery

/-- A lexer, given by the text that it has not yet cut. -/
structure Lexer where
  rest : List Char
  deriving DecidableEq

namespace Lexer

def ofString (text : String) : Lexer := ⟨text.toList⟩

/-- The next token (`next_token`). At the end of the text it is the end of input, however often one asks. -/
def next (l : Lexer) : Token × Lexer :=
  let (t, rest) := Token.next l.rest
  (t, ⟨rest⟩)

/-- The next token, or nothing at the end of the text: the `next` of the iterator. -/
def next? (l : Lexer) : Option Token × Lexer :=
  match l.next with
  | (.eof, l') => (none, l')
  | (t, l') => (some t, l')

def tokens (l : Lexer) : List Token := Token.scanChars l.rest

/-- The lexer once all its tokens have been handed out. -/
def atEnd : Lexer := ⟨[]⟩

theorem tokens_ofString (text : String) : (ofString text).tokens = Token.scan text := rfl

theorem next_fst_eq_eof_iff {l : Lexer} : l.next.1 = .eof ↔ l = atEnd := by
  obtain ⟨rest⟩ := l
  simpa [next, atEnd] using Token.next_fst_eq_eof_iff

theorem tokens_of_next {l : Lexer} (h : l.next.1 ≠ .eof) :
    l.tokens = l.next.1 :: l.next.2.tokens := by
  have hne : l.rest ≠ [] := fun he => h (by simp [next, he, Token.next_nil])
  exact Token.scanChars_of_ne_nil hne

theorem tokens_of_eof {l : Lexer} (h : l.next.1 = .eof) : l.tokens = [] := by
  rw [next_fst_eq_eof_iff] at h
  subst h
  exact Token.scanChars_nil

/-- At the end of the text there is no element. In front of it, the next element is the first of the tokens
that are left, and fewer characters are left behind it. -/
theorem next?_cases (l : Lexer) :
    l = atEnd ∧ l.next? = (none, atEnd) ∨
      ∃ t l', l.next? = (some t, l') ∧ l'.rest.length < l.rest.length ∧ l.tokens = t :: l'.tokens := by
  by_cases h : l.next.1 = .eof
  · obtain rfl := next_fst_eq_eof_iff.1 h
    exact .inl ⟨rfl, rfl⟩
  · have hne : l.rest ≠ [] := fun he => h (by simp [next, he, Token.next_nil])
    refine .inr ⟨l.next.1, l.next.2, ?_, Token.length_next_lt hne, tokens_of_next h⟩
    unfold next?
    split
    · rename_i heof
      exact absurd (congrArg Prod.fst heof) h
    · rename_i hnext
      rw [hnext]

/-! ## Series of requests -/

/-- The ways to ask a lexer. -/
inductive Request where
  /-- The next token, the end of the text included. -/
  | token
  /-- The next element of the sequence of tokens. -/
  | element
  /-- All elements that are left. -/
  | elements
  deriving DecidableEq

inductive Answer where
  | token (t : Token)
  | element (t? : Option Token)
  | elements (ts : List Token)
  deriving DecidableEq

/-- The answer to one request, and the lexer after it. -/
def answer (l : Lexer) : Request → Answer × Lexer
  | .token => let (t, l') := l.next; (.token t, l')
  | .element => let (t?, l') := l.next?; (.element t?, l')
  | .elements => (.elements l.tokens, atEnd)

/-- The answers to a series of requests to one lexer. -/
def answers (l : Lexer) : List Request → List Answer
  | [] => []
  | r :: rs => (l.answer r).1 :: (l.answer r).2.answers rs

end Lexer

end SelectQuery
