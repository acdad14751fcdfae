import SelectQuery.Token.Lexer
import SelectQuery.Token.Stack

/-!
# Readers

A reader delivers first the tokens that were handed back to it, the last one handed back first, and
then those of a text. `Reader.nextSignificant` reads past a whitespace token. It skips a single one:
text is cut into whole runs of blanks, so two whitespace tokens follow each other only where one of
them was handed back, and then the second one is delivered.
-/

namespace SelectQuery

/-- The tokens handed back and the text still to be cut. -/
structure Reader where
  pending : TokenStack
  lexer : Lexer
  deriving DecidableEq

namespace Reader

def ofString (text : String) : Reader := ⟨.empty, .ofString text⟩

/-- Hands a token back: it is the next one to be read (`unscan`). -/
def unread (r : Reader) (t : Token) : Reader := { r with pending := r.pending.push t }

/-- Hands several tokens back in the order of the list, so that its last one is read first. -/
def unreadAll (r : Reader) (ts : List Token) : Reader := ts.foldl unread r

/-- The next token, and the reader after it (`scan`). -/
def next (r : Reader) : Token × Reader :=
  match r.pending.pop with
  | (some t, pending) => (t, { r with pending })
  | (none, _) => let (t, lexer) := r.lexer.next; (t, { r with lexer })

/-- The next token after at most one whitespace token, and the reader after it (`scan_meaningful`). -/
def nextSignificant (r : Reader) : Token × Reader :=
  match r.next with
  | (.whitespace, r') => r'.next
  | other => other

/-! ## A reader comes to its end -/

/-- A bound on the number of tokens that are left. -/
def size (r : Reader) : Nat := r.pending.toList.length + r.lexer.rest.length

/-- Reading a token other than the end of input leaves fewer. -/
theorem size_next_lt {r : Reader} (h : r.next.1 ≠ .eof) : r.next.2.size < r.size := by
  obtain ⟨⟨pending⟩, ⟨rest⟩⟩ := r
  cases pending with
  | cons t ts => simp [next, TokenStack.pop, size]
  | nil =>
    have hne : rest ≠ [] := by
      rintro rfl
      exact h rfl
    simpa [next, TokenStack.pop, size, Lexer.next] using Token.length_next_lt hne

theorem size_next_le (r : Reader) : r.next.2.size ≤ r.size := by
  obtain ⟨⟨pending⟩, ⟨rest⟩⟩ := r
  cases pending with
  | cons t ts => simp [next, TokenStack.pop, size]
  | nil =>
    cases rest with
    | nil => simp [next, TokenStack.pop, size, Lexer.next, Token.next]
    | cons c cs =>
      have := @Token.length_next_lt (c :: cs) (by simp)
      simpa [next, TokenStack.pop, size, Lexer.next] using Nat.le_of_lt this

theorem size_lt_of_nextSignificant {r rest : Reader} {t : Token} (h : r.nextSignificant = (t, rest))
    (ht : t ≠ .eof) : rest.size < r.size := by
  unfold nextSignificant at h
  split at h
  · rename_i r' hr
    have hblank : r'.size < r.size := by
      have := size_next_lt (r := r) (by simp [hr])
      rwa [hr] at this
    have hnext : rest.size ≤ r'.size := by
      have := size_next_le r'
      rwa [h] at this
    exact Nat.lt_of_le_of_lt hnext hblank
  · have := size_next_lt (r := r) (by simpa [h] using ht)
    rwa [h] at this

/-- The tokens up to the first end of input. -/
def tokens (r : Reader) : List Token :=
  let next := r.next
  if next.1 = .eof then [] else next.1 :: next.2.tokens
termination_by r.size
decreasing_by exact size_next_lt (by assumption)

theorem tokens_of_eof {r : Reader} (h : r.next.1 = .eof) : r.tokens = [] := by
  rw [tokens]
  simp [h]

theorem tokens_of_next {r : Reader} (h : r.next.1 ≠ .eof) :
    r.tokens = r.next.1 :: r.next.2.tokens := by
  rw [tokens]
  simp [h]

theorem tokens_unread (r : Reader) {t : Token} (h : t ≠ .eof) :
    (r.unread t).tokens = t :: r.tokens :=
  @tokens_of_next (r.unread t) h

theorem tokens_of_empty (lexer : Lexer) :
    tokens ⟨.empty, lexer⟩ = lexer.tokens.takeWhile (· ≠ .eof) := by
  induction hn : lexer.rest.length using Nat.strongRecOn generalizing lexer with
  | _ n ih =>
    by_cases h : lexer.next.1 = .eof
    · rw [tokens_of_eof (r := ⟨.empty, lexer⟩) h, Lexer.tokens_of_eof h, List.takeWhile_nil]
    · have hlt : lexer.next.2.rest.length < n := by
        subst hn
        exact Token.length_next_lt fun he => h (by simp [Lexer.next, he, Token.next_nil])
      have hnext : next ⟨.empty, lexer⟩ = (lexer.next.1, ⟨.empty, lexer.next.2⟩) := rfl
      rw [tokens_of_next (r := ⟨.empty, lexer⟩) h, Lexer.tokens_of_next h, List.takeWhile_cons,
        hnext, ih _ hlt lexer.next.2 rfl]
      simp [h]

/-- The tokens of a reader are those handed back, the last one first, and then those of its text, up
to the first end of input. -/
theorem tokens_eq (r : Reader) :
    r.tokens = (r.pending.toList ++ r.lexer.tokens).takeWhile (· ≠ .eof) := by
  obtain ⟨⟨pending⟩, lexer⟩ := r
  induction pending with
  | nil => exact tokens_of_empty lexer
  | cons t ts ih =>
    by_cases h : t = .eof
    · subst h
      rw [tokens_of_eof rfl]
      rfl
    · have hunread : tokens ⟨⟨t :: ts⟩, lexer⟩ = t :: tokens ⟨⟨ts⟩, lexer⟩ :=
        tokens_unread ⟨⟨ts⟩, lexer⟩ h
      rw [hunread, ih]
      simp [h]

end Reader

end SelectQuery
