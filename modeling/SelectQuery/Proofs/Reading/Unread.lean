import SelectQuery.Proofs.Reading.Simulation

/-!
# Tokens handed back

A reader draws its tokens from two sources, those handed back to it and those of its text. For a reading
they are one stream (`Token.stream`): the tokens handed back, the last one first, then the tokens of the
text, and all of them only up to the first end of input, wherever it comes from. Whatever tokens are
handed back, the reading is that of the plain list of these tokens (`Statement.read_unreadAll`).

So handing back undoes cutting. Tokens that a lexer has delivered may go back in front of the text that it
has left, and nothing has changed (`Statement.read_ofDelivered`).
-/

namespace SelectQuery

/-- What is read of some tokens handed back in front of a text: the last one handed back comes first,
and nothing behind the first end of input counts. -/
def Token.stream (handedBack : List Token) (text : String) : List Token :=
  (handedBack.reverse ++ Token.scan text).takeWhile (· ≠ .eof)

/-- The reading of a plain list of tokens, one after the other. No source and no stack is left, only the
progress that each token makes; a single whitespace token in front of another token is left out, and the
end of the list is the end of the input. -/
def Reading.ofTokens (ts : List Token) : Reading := (Progress.initial.runFrom false ts).reading

namespace Reader

variable {r : Reader} {t : Token} {ts : List Token}

theorem pending_unreadAll : (r.unreadAll ts).pending.toList = ts.reverse ++ r.pending.toList := by
  induction ts generalizing r with
  | nil => rfl
  | cons t ts ih =>
    have hpush : (r.unread t).pending.toList = t :: r.pending.toList := rfl
    have hcons : r.unreadAll (t :: ts) = (r.unread t).unreadAll ts := rfl
    rw [hcons, ih, hpush]
    simp

theorem lexer_unreadAll : (r.unreadAll ts).lexer = r.lexer := by
  induction ts generalizing r with
  | nil => rfl
  | cons t ts ih => exact @ih (r.unread t)

/-- **Both sources make one stream**, up to the first end of input. -/
theorem tokens_unreadAll (text : String) (ts : List Token) :
    ((ofString text).unreadAll ts).tokens = Token.stream ts text := by
  rw [tokens_eq, pending_unreadAll, lexer_unreadAll]
  simp [ofString, TokenStack.empty, Lexer.tokens_ofString, Token.stream]

end Reader

namespace Statement

/-- **Tokens handed back in front of a text are read as one list with its tokens**, up to the first end
of input. So all that a reading depends on is this list: where the tokens come from makes no difference,
nor does what is behind the end. -/
theorem read_unreadAll (text : String) (handedBack : List Token) :
    read ((Reader.ofString text).unreadAll handedBack) =
        Reading.ofTokens (Token.stream handedBack text) ∧
      ∀ text' handedBack', Token.stream handedBack' text' = Token.stream handedBack text →
        read ((Reader.ofString text').unreadAll handedBack') =
          read ((Reader.ofString text).unreadAll handedBack) := by
  have hread : ∀ text ts, read ((Reader.ofString text).unreadAll ts) =
      Reading.ofTokens (Token.stream ts text) := by
    intro text ts
    rw [read_eq, Reader.tokens_unreadAll]
    rfl
  refine ⟨hread text handedBack, fun text' handedBack' hstream => ?_⟩
  rw [hread, hread, hstream]

/-- An end of input behind a whitespace token: neither the comma on the stack nor the text behind it is
read. -/
theorem read_unreadAll_eof :
    Token.stream [.word "a", .keyword .select "select"] " " =
        Token.stream [.comma, .eof, .whitespace, .word "a", .keyword .select "select"] "from t" ∧
      read ((Reader.ofString " ").unreadAll [.word "a", .keyword .select "select"]) =
        read ((Reader.ofString "from t").unreadAll
          [.comma, .eof, .whitespace, .word "a", .keyword .select "select"]) := by
  have hstream : Token.stream [.word "a", .keyword .select "select"] " " =
      Token.stream [.comma, .eof, .whitespace, .word "a", .keyword .select "select"] "from t" := by
    decide +kernel
  exact ⟨hstream, (read_unreadAll "from t" _).2 " " _ hstream⟩

end Statement

/-! ## Tokens that have been delivered -/

namespace Lexer

/-- The tokens that the lexer delivers if it is asked for the next one `k` times, and the lexer behind
them. -/
def deliver (l : Lexer) : Nat → List Token × Lexer
  | 0 => ([], l)
  | k + 1 => (l.next.1 :: (l.next.2.deliver k).1, (l.next.2.deliver k).2)

variable {k : Nat}

/-- **Nothing gets lost between the tokens delivered and those that are left**, up to the end of the
text. -/
theorem takeWhile_deliver (l : Lexer) (k : Nat) :
    ((l.deliver k).1 ++ (l.deliver k).2.tokens).takeWhile (· ≠ .eof) =
      l.tokens.takeWhile (· ≠ .eof) := by
  induction k generalizing l with
  | zero => rfl
  | succ k ih =>
    rw [deliver, List.cons_append]
    by_cases h : l.next.1 = .eof
    · rw [tokens_of_eof h, h]
      rfl
    · rw [tokens_of_next h, List.takeWhile_cons, List.takeWhile_cons, ih]

theorem deliver_fst_eq_take {l : Lexer} (hk : k ≤ l.tokens.length) :
    (l.deliver k).1 = l.tokens.take k := by
  induction k generalizing l with
  | zero => rfl
  | succ k ih =>
    have hnext : l.next.1 ≠ .eof := by
      intro h
      rw [tokens_of_eof h] at hk
      cases hk
    rw [tokens_of_next hnext, List.length_cons] at hk
    rw [deliver, tokens_of_next hnext, List.take_succ_cons, ih (Nat.le_of_succ_le_succ hk)]

theorem rest_next_suffix (l : Lexer) : l.next.2.rest <:+ l.rest := by
  obtain ⟨rest⟩ := l
  cases rest with
  | nil => exact List.suffix_rfl
  | cons c cs =>
    obtain ⟨w, rest, t, hcs, hp⟩ := Token.exists_piece (List.cons_ne_nil c cs)
    have hnext : (next ⟨c :: cs⟩).2.rest = rest := by rw [next, hcs, hp.next_eq]
    rw [hnext, hcs]
    exact List.suffix_append w rest

theorem rest_deliver_suffix (l : Lexer) (k : Nat) : (l.deliver k).2.rest <:+ l.rest := by
  induction k generalizing l with
  | zero => exact List.suffix_rfl
  | succ k ih => exact (ih l.next.2).trans (rest_next_suffix l)

end Lexer

/-- The reader of what a lexer has left of a text after it has delivered `k` tokens, with these tokens
handed back, the last one delivered first. -/
def Reader.ofDelivered (text : String) (k : Nat) : Reader :=
  (Reader.ofString (String.ofList ((Lexer.ofString text).deliver k).2.rest)).unreadAll
    ((Lexer.ofString text).deliver k).1.reverse

/-- **It does not matter where a text is cut into tokens and rest.** -/
theorem Reader.tokens_ofDelivered (text : String) (k : Nat) :
    (ofDelivered text k).tokens = (ofString text).tokens := by
  have hrest : Token.scan (String.ofList ((Lexer.ofString text).deliver k).2.rest)
      = ((Lexer.ofString text).deliver k).2.tokens := by
    rw [Token.scan, String.toList_ofList]
    rfl
  rw [ofDelivered, tokens_unreadAll, Token.stream, List.reverse_reverse, hrest,
    Lexer.takeWhile_deliver, ofString, tokens_of_empty]

namespace Statement

/-- **Handing back undoes cutting.** A lexer delivers the first `k` tokens of a text and leaves an end of
the text. With these tokens handed back in front of what is left, the reading is that of the whole text: its
statement or its error, and its events. -/
theorem read_ofDelivered {text : String} {k : Nat} (hk : k ≤ (Token.scan text).length) :
    ((Lexer.ofString text).deliver k).1 = (Token.scan text).take k ∧
      ((Lexer.ofString text).deliver k).2.rest <:+ text.toList ∧
      (read (.ofDelivered text k)).result = parse text ∧
      (read (.ofDelivered text k)).events = (read (.ofString text)).events := by
  have hread : read (.ofDelivered text k) = read (.ofString text) := by
    rw [read_eq, read_eq, Reader.tokens_ofDelivered]
  refine ⟨Lexer.deliver_fst_eq_take hk, Lexer.rest_deliver_suffix _ k, ?_, ?_⟩
  · rw [hread, parse]
  · rw [hread]

/-- The tokens up to a run of two blanks in front of the keyword of the condition go back. -/
theorem read_ofDelivered_blanks :
    6 ≤ (Token.scan "select a from  where x").length ∧
      ((Lexer.ofString "select a from  where x").deliver 6).1 =
        (Token.scan "select a from  where x").take 6 ∧
      (read (.ofDelivered "select a from  where x" 6)).result = .ok ⟨[⟨none, "a"⟩], [], " x"⟩ := by
  have hk : 6 ≤ (Token.scan "select a from  where x").length := by decide +kernel
  have hparse : parse "select a from  where x" = .ok ⟨[⟨none, "a"⟩], [], " x"⟩ := by decide +kernel
  obtain ⟨htake, -, hresult, -⟩ := read_ofDelivered hk
  exact ⟨hk, htake, hresult.trans hparse⟩

end Statement

end SelectQuery
