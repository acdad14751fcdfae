import SelectQuery.Token.Lexer

/-!
# Cursors

A cursor holds the whole text and a position in it, where a lexer holds the text that is left. It goes over
the text one character at a time and can go back (`Cursor.read`, `Cursor.unread`). The end of a run only shows
in the character behind it, so a cursor reads that one too and gives it back. Going back is not guarded: at
the start of the text it fails, and then the request has no answer. A cursor keeps account of its moves.

`Cursor.next` is `next_token` with its single steps. It is asked like a lexer, and it cuts the text as
`Token.next` does (`Cursor.next_eq`).
-/

namespace SelectQuery

/-- What a cursor does to its position. -/
inductive Move where
  /-- A character was read. -/
  | read (c : Char)
  /-- There was no character left to read. -/
  | stop
  /-- The cursor went back by one character. -/
  | unread
  deriving DecidableEq

/-- A text, a position in it, and the moves that led there. -/
structure Cursor where
  text : List Char
  position : Nat
  moves : List Move
  deriving DecidableEq

namespace Cursor

def ofString (text : String) : Cursor := ⟨text.toList, 0, []⟩

def rest (c : Cursor) : List Char := c.text.drop c.position

/-! ## Single moves -/

/-- Reads a character, if there is one left. At the end of the text the position stays (`get(current)` is
asked before `current` is moved). -/
def read (c : Cursor) : Option Char × Cursor :=
  match c.text[c.position]? with
  | some char => (some char, { c with position := c.position + 1, moves := c.moves ++ [.read char] })
  | none => (none, { c with moves := c.moves ++ [.stop] })

/-- Goes back by one character, which fails in front of the first one (the assertion of `unread`). -/
def unread (c : Cursor) : Option Cursor :=
  match c.position with
  | 0 => none
  | position + 1 => some { c with position, moves := c.moves ++ [.unread] }

variable {c c' : Cursor} {char : Char}

theorem read_cases (c : Cursor) :
    (∃ char, c.text[c.position]? = some char ∧
      c.read = (some char, ⟨c.text, c.position + 1, c.moves ++ [.read char]⟩)) ∨
    c.text.length ≤ c.position ∧ c.read = (none, ⟨c.text, c.position, c.moves ++ [.stop]⟩) := by
  cases h : c.text[c.position]? with
  | some char => exact .inl ⟨char, rfl, by simp only [read, h]⟩
  | none => exact .inr ⟨by simpa using h, by simp only [read, h]⟩

theorem read_of_none (h : c.read = (none, c')) : c.rest = [] ∧ c'.rest = [] := by
  obtain ⟨char, -, hread⟩ | ⟨hend, hread⟩ := read_cases c
  · simp [hread] at h
  · obtain rfl : _ = c' := congrArg Prod.snd (hread.symm.trans h)
    simpa [rest] using hend

theorem rest_of_read (h : c.read = (some char, c')) : c.rest = char :: c'.rest := by
  obtain ⟨char', hchar, hread⟩ | ⟨-, hread⟩ := read_cases c
  · rw [hread, Prod.mk.injEq, Option.some.injEq] at h
    obtain ⟨rfl, rfl⟩ := h
    exact List.drop_eq_getElem?_toList_append.trans (by simp [hchar, rest])
  · simp [hread] at h

/-- Directly behind a character the cursor can go back, and then that character is left again. -/
theorem unread_of_read (h : c.read = (some char, c')) :
    ∃ c'', c'.unread = some c'' ∧ c''.rest = c.rest := by
  obtain ⟨char', -, hread⟩ | ⟨-, hread⟩ := read_cases c
  · rw [hread, Prod.mk.injEq] at h
    obtain ⟨-, rfl⟩ := h
    exact ⟨_, rfl, rfl⟩
  · simp [hread] at h

/-! ## Runs -/

/-- A kind of run: the characters that it is made of, and whether the character that ends it is part of it.
The loops of `whitespace`, `quoted` and `word` are alike but for these two. -/
structure Run where
  has : Char → Bool
  isClosed : Bool

namespace Run

def blanks : Run := ⟨isBlank, false⟩

def word : Run := ⟨isWordChar, false⟩

/-- Quoted text ends with a quote of its own. -/
def quoted : Run := ⟨isQuotable, true⟩

/-- What a run leaves of the text that does not belong to it. -/
def leave (r : Run) (cs : List Char) : List Char := if r.isClosed then cs.drop 1 else cs

end Run

/-- Reads a run to its end. The character behind it is given back, unless it is part of the run. -/
def readRun (r : Run) (c : Cursor) : Option (List Char × Cursor) :=
  match _h : c.read with
  | (none, c') => some ([], c')
  | (some char, c') =>
    if r.has char then (c'.readRun r).map fun (run, c'') => (char :: run, c'')
    else if r.isClosed then some ([], c')
    else c'.unread.map fun c'' => ([], c'')
termination_by c.rest.length
decreasing_by simp [rest_of_read _h]

/-- **A run is read to its end**, and no further. -/
theorem readRun_eq (r : Run) (c : Cursor) :
    ∃ c', c.readRun r = some (c.rest.takeWhile r.has, c') ∧
      c'.rest = r.leave (c.rest.dropWhile r.has) := by
  fun_induction readRun r c with
  | case1 c c' h =>
    obtain ⟨hc, hc'⟩ := read_of_none h
    exact ⟨c', by simp [hc], by simp [hc, hc', Run.leave]⟩
  | case2 c char c' h hchar ih =>
    obtain ⟨c'', hrun, hrest⟩ := ih
    refine ⟨c'', ?_, ?_⟩
    · simp [hrun, rest_of_read h, hchar]
    · rw [hrest, rest_of_read h, List.dropWhile_cons_of_pos hchar]
  | case3 c char c' h hchar hclosed =>
    refine ⟨c', ?_, ?_⟩
    · simp [rest_of_read h, hchar]
    · rw [rest_of_read h, List.dropWhile_cons_of_neg hchar, Run.leave, if_pos hclosed]
      rfl
  | case4 c char c' h hchar hopen =>
    obtain ⟨c'', hunread, hrest⟩ := unread_of_read h
    refine ⟨c'', ?_, ?_⟩
    · simp [hunread, rest_of_read h, hchar]
    · rw [hrest, rest_of_read h, List.dropWhile_cons_of_neg hchar, Run.leave, if_neg hopen]

/-! ## Tokens -/

/-- The next token (`next_token`). The first character of a word is given back, and then read with the
others. -/
def next (c : Cursor) : Option (Token × Cursor) :=
  match c.read with
  | (none, c') => some (.eof, c')
  | (some '.', c') => some (.dot, c')
  | (some ',', c') => some (.comma, c')
  | (some '=', c') => some (.equal, c')
  | (some char, c') =>
    if isBlank char then (c'.readRun .blanks).map fun (_, c'') => (.whitespace, c'')
    else if char = '\'' then
      (c'.readRun .quoted).map fun (run, c'') => (.quoted (String.ofList run), c'')
    else
      c'.unread.bind fun back => (back.readRun .word).map fun (run, c'') =>
        (Token.ofWord (String.ofList run), c'')

/-- **The next token is that of the text behind the position**, and the text behind the token is left. -/
theorem next_eq (c : Cursor) :
    ∃ c', c.next = some ((Token.next c.rest).1, c') ∧ c'.rest = (Token.next c.rest).2 := by
  fun_cases next c with
  | case1 c' h =>
    obtain ⟨hc, hc'⟩ := read_of_none h
    exact ⟨c', by rw [hc]; rfl, by rw [hc, hc']; rfl⟩
  | case2 c' h | case3 c' h | case4 c' h =>
    rw [rest_of_read h]
    exact ⟨c', rfl, rfl⟩
  | case5 char c' _ _ _ h hblank =>
    obtain ⟨c'', hrun, hrest⟩ := readRun_eq .blanks c'
    rw [rest_of_read h, Token.next_of_isBlank hblank]
    exact ⟨c'', by rw [hrun]; rfl, hrest⟩
  | case6 c' _ _ _ h =>
    obtain ⟨c'', hrun, hrest⟩ := readRun_eq .quoted c'
    rw [rest_of_read h, Token.next_quote]
    exact ⟨c'', by rw [hrun]; rfl, hrest⟩
  | case7 char c' hdot hcomma hequal h hblank hquote =>
    obtain ⟨back, hunread, hback⟩ := unread_of_read h
    obtain ⟨c'', hrun, hrest⟩ := readRun_eq .word back
    have hchar : isWordChar char = true := by
      simp_all [isWordChar, isMark]
    rw [hback, rest_of_read h] at hrun hrest
    rw [rest_of_read h, Token.next_of_isWordChar hchar, hunread, Option.bind_some, hrun]
    refine ⟨c'', ?_, ?_⟩
    · simp [Run.word, hchar]
    · simpa [Run.word, Run.leave, hchar] using hrest

/-- The first character of a word is read twice, and the one behind the word is given back. -/
example :
    (ofString "a b").next =
      some (.word "a", ⟨['a', ' ', 'b'], 1, [.read 'a', .unread, .read 'a', .read ' ', .unread]⟩) := by
  decide +kernel

/-! ## Series of requests -/

/-- The next token, or nothing at the end of the text. -/
def next? (c : Cursor) : Option (Option Token × Cursor) :=
  c.next.map fun
    | (.eof, c') => (none, c')
    | (t, c') => (some t, c')

/-- The lexer over the text behind the position. -/
def lexer (c : Cursor) : Lexer := ⟨c.rest⟩

theorem next?_eq (c : Cursor) :
    ∃ c', c.next? = some (c.lexer.next?.1, c') ∧ c'.lexer = c.lexer.next?.2 := by
  obtain ⟨c', hnext, hrest⟩ := next_eq c
  refine ⟨c', ?_, ?_⟩
  · simp only [next?, hnext, Lexer.next?, Lexer.next, lexer]
    cases (Token.next c.rest).1 <;> rfl
  · simp only [Lexer.next?, Lexer.next, lexer, hrest]
    cases (Token.next c.rest).1 <;> rfl

theorem length_rest_next?_lt {c c' : Cursor} {t : Token} (h : c.next? = some (some t, c')) :
    c'.rest.length < c.rest.length := by
  obtain ⟨c'', hnext, hlexer⟩ := next?_eq c
  obtain ⟨rfl, hc⟩ : c'' = c' ∧ c.lexer.next?.1 = some t := by simpa [hnext, and_comm] using h
  obtain ⟨-, hend⟩ | ⟨t', l', hl, hlt, -⟩ := c.lexer.next?_cases
  · simp [hend] at hc
  · rw [hl] at hlexer
    subst hlexer
    exact hlt

def tokens (c : Cursor) : Option (List Token × Cursor) :=
  match _h : c.next? with
  | none => none
  | some (none, c') => some ([], c')
  | some (some t, c') => c'.tokens.map fun (ts, c'') => (t :: ts, c'')
termination_by c.rest.length
decreasing_by exact length_rest_next?_lt _h

theorem tokens_eq (c : Cursor) :
    ∃ c', c.tokens = some (c.lexer.tokens, c') ∧ c'.lexer = .atEnd := by
  fun_induction tokens c with
  | case1 c h =>
    obtain ⟨c', hnext, -⟩ := next?_eq c
    simp [hnext] at h
  | case2 c c' h =>
    obtain ⟨c'', hnext, hlexer⟩ := next?_eq c
    obtain ⟨rfl, hc⟩ : c'' = c' ∧ c.lexer.next?.1 = none := by simpa [hnext, and_comm] using h
    obtain ⟨hend, hstay⟩ | ⟨t, l', hl, -, -⟩ := c.lexer.next?_cases
    · refine ⟨c'', ?_, by rw [hlexer, hstay]⟩
      rw [hend, Lexer.tokens_of_eof rfl]
    · simp [hl] at hc
  | case3 c t c' h ih =>
    obtain ⟨c'', hnext, hlexer⟩ := next?_eq c
    obtain ⟨rfl, hc⟩ : c'' = c' ∧ c.lexer.next?.1 = some t := by simpa [hnext, and_comm] using h
    obtain ⟨-, hend⟩ | ⟨t', l', hl, -, htokens⟩ := c.lexer.next?_cases
    · simp [hend] at hc
    · obtain rfl : t' = t := by simpa [hl] using hc
      obtain ⟨c₁, hrest, hlast⟩ := ih
      refine ⟨c₁, ?_, hlast⟩
      rw [hrest, hlexer, hl, htokens]
      rfl

/-- The answer to one request, and the cursor after it. -/
def answer (c : Cursor) : Lexer.Request → Option (Lexer.Answer × Cursor)
  | .token => c.next.map fun (t, c') => (.token t, c')
  | .element => c.next?.map fun (t?, c') => (.element t?, c')
  | .elements => c.tokens.map fun (ts, c') => (.elements ts, c')

/-- **A request is answered as by a lexer**, and the cursor is then where the lexer is. -/
theorem answer_eq (c : Cursor) (r : Lexer.Request) :
    ∃ c', c.answer r = some ((c.lexer.answer r).1, c') ∧ c'.lexer = (c.lexer.answer r).2 := by
  cases r with
  | token =>
    obtain ⟨c', hnext, hrest⟩ := next_eq c
    exact ⟨c', by rw [answer, hnext]; rfl, congrArg Lexer.mk hrest⟩
  | element =>
    obtain ⟨c', hnext, hlexer⟩ := next?_eq c
    exact ⟨c', by rw [answer, hnext]; rfl, hlexer⟩
  | elements =>
    obtain ⟨c', htokens, hlexer⟩ := tokens_eq c
    exact ⟨c', by rw [answer, htokens]; rfl, hlexer⟩

/-- The answers to a series of requests to one cursor, and the cursor after them. -/
def answers (c : Cursor) : List Lexer.Request → Option (List Lexer.Answer × Cursor)
  | [] => some ([], c)
  | r :: rs => (c.answer r).bind fun (a, c') => (c'.answers rs).map fun (as, c'') => (a :: as, c'')

/-- **A series of requests is answered as by a lexer.** -/
theorem answers_eq (c : Cursor) (rs : List Lexer.Request) :
    ∃ c', c.answers rs = some (c.lexer.answers rs, c') := by
  induction rs generalizing c with
  | nil => exact ⟨c, rfl⟩
  | cons r rs ih =>
    obtain ⟨c', hanswer, hlexer⟩ := answer_eq c r
    obtain ⟨c'', hanswers⟩ := ih c'
    exact ⟨c'', by simp [answers, hanswer, hanswers, hlexer, Lexer.answers]⟩

end Cursor

end SelectQuery
