import Mathlib.Data.List.Infix
import Mathlib.Logic.Relation
import SelectQuery.Token.Cursor

/-!
# Series of requests

A lexer is asked in three ways, mixed at will. Whatever it is asked, its answers deliver the tokens of the
text in order, each once, and an answer that delivers none tells that the end of the text is reached
(`Lexer.delivered_answers_prefix`, `Lexer.answers_after_exhausts`).

A cursor gives the same answers by going to and fro in its text. Whatever it does is made of two steps, a
reading and a glance at the next character, which is read and given back at once (`Cursor.Step`). From that
alone it follows that it never leaves the text and never gives back what it has not just read
(`Cursor.Sound`).
-/

namespace SelectQuery

/-! ## What answers deliver -/

namespace Lexer

namespace Answer

def delivered : Answer → List Token
  | .token .eof => []
  | .token t => [t]
  | .element t? => t?.toList
  | .elements ts => ts

def isEnd : Answer → Bool
  | .token t => t == .eof
  | .element t? => t?.isNone
  | .elements ts => ts.isEmpty

/-- Are there no more tokens after the answer, be it for the reason that it delivers all of them? -/
def exhausts : Answer → Bool
  | .elements _ => true
  | a => a.isEnd

end Answer

def delivered (as : List Answer) : List Token := as.flatMap Answer.delivered

theorem tokens_atEnd : atEnd.tokens = [] := tokens_of_eof rfl

theorem tokens_eq_nil_iff {l : Lexer} : l.tokens = [] ↔ l = atEnd := by
  constructor
  · intro h
    by_contra hne
    rw [tokens_of_next (mt next_fst_eq_eof_iff.1 hne)] at h
    cases h
  · rintro rfl
    exact tokens_atEnd

/-- **What an answer delivers and what is left after it** are the tokens that were left before it. -/
theorem tokens_answer (l : Lexer) (r : Request) :
    l.tokens = (l.answer r).1.delivered ++ (l.answer r).2.tokens := by
  cases r with
  | token =>
    by_cases h : l.next.1 = .eof
    · obtain rfl := next_fst_eq_eof_iff.1 h
      rfl
    · have hdelivered : (Answer.token l.next.1).delivered = [l.next.1] := by
        unfold Answer.delivered
        split <;> simp_all
      rw [tokens_of_next h, answer, hdelivered]
      rfl
  | element =>
    obtain ⟨rfl, -⟩ | ⟨t, l', hnext, -, htokens⟩ := l.next?_cases
    · rfl
    · rw [htokens, answer, hnext]
      rfl
  | elements =>
    rw [answer, tokens_atEnd, List.append_nil]
    rfl

/-- **An answer says that there are no more tokens** exactly at the end of the text. -/
theorem isEnd_answer_iff {l : Lexer} {r : Request} : (l.answer r).1.isEnd = true ↔ l = atEnd := by
  cases r with
  | token => exact beq_iff_eq.trans next_fst_eq_eof_iff
  | element =>
    obtain ⟨rfl, -⟩ | ⟨t, l', hnext, hlt, -⟩ := l.next?_cases
    · exact iff_of_true rfl rfl
    · refine iff_of_false (by simp [answer, hnext, Answer.isEnd]) ?_
      rintro rfl
      exact absurd hlt (Nat.not_lt_zero _)
  | elements => exact List.isEmpty_iff.trans tokens_eq_nil_iff

theorem answer_atEnd (r : Request) : (atEnd.answer r).2 = atEnd := by
  cases r <;> rfl

theorem answer_of_exhausts {l : Lexer} {r : Request} (h : (l.answer r).1.exhausts = true) :
    (l.answer r).2 = atEnd := by
  cases r with
  | elements => rfl
  | token =>
    have hend : (l.answer .token).1.isEnd = true := h
    rw [isEnd_answer_iff.1 hend, answer_atEnd]
  | element =>
    have hend : (l.answer .element).1.isEnd = true := h
    rw [isEnd_answer_iff.1 hend, answer_atEnd]

theorem length_answer_lt {l : Lexer} (r : Request) (h : l ≠ atEnd) :
    (l.answer r).2.rest.length < l.rest.length := by
  have hne : l.rest ≠ [] := fun he => h (by rw [atEnd, ← he])
  cases r with
  | token => exact Token.length_next_lt hne
  | element =>
    obtain ⟨rfl, -⟩ | ⟨t, l', hnext, hlt, -⟩ := l.next?_cases
    · exact absurd rfl h
    · rwa [answer, hnext]
  | elements => exact List.length_pos_iff.2 hne

theorem isEnd_of_mem_answers {rs : List Request} : ∀ a ∈ atEnd.answers rs, a.isEnd = true := by
  induction rs with
  | nil => nofun
  | cons r rs ih =>
    rw [answers, answer_atEnd]
    exact List.forall_mem_cons.2 ⟨isEnd_answer_iff.2 rfl, ih⟩

/-- **The answers deliver the tokens in order**, each once and none left out. -/
theorem delivered_answers_prefix (l : Lexer) (rs : List Request) :
    delivered (l.answers rs) <+: l.tokens := by
  induction rs generalizing l with
  | nil => exact List.nil_prefix
  | cons r rs ih =>
    rw [answers, delivered, List.flatMap_cons, tokens_answer l r]
    exact (List.prefix_append_right_inj _).2 (ih _)

/-- **Once there are no more tokens, all of them have been delivered**, and every later answer says so. -/
theorem answers_after_exhausts {l : Lexer} {rs : List Request} {before after : List Answer} {a : Answer}
    (h : l.answers rs = before ++ a :: after) (ha : a.exhausts = true) :
    delivered (before ++ [a]) = l.tokens ∧ ∀ b ∈ after, b.isEnd = true := by
  induction rs generalizing l before with
  | nil => exact absurd h (by simp [answers])
  | cons r rs ih =>
    cases before with
    | nil =>
      obtain ⟨rfl, rfl⟩ := List.cons.inj h
      rw [answer_of_exhausts ha]
      refine ⟨?_, isEnd_of_mem_answers⟩
      rw [tokens_answer l r, answer_of_exhausts ha, tokens_atEnd]
      simp [delivered]
    | cons b before =>
      obtain ⟨rfl, hrest⟩ := List.cons.inj h
      obtain ⟨hdelivered, hafter⟩ := ih hrest
      refine ⟨?_, hafter⟩
      rw [tokens_answer l r, ← hdelivered]
      simp [delivered]

end Lexer

/-! ## Moves of a cursor -/

def Move.distance : Move → Int
  | .read _ => 1
  | .stop => 0
  | .unread => -1

def distance : List Move → Int
  | [] => 0
  | m :: ms => m.distance + distance ms

theorem distance_concat (ms : List Move) (m : Move) : distance (ms ++ [m]) = distance ms + m.distance := by
  induction ms with
  | nil => simp [distance]
  | cons n ms ih =>
    rw [List.cons_append, distance, distance, ih]
    omega

/-- The moves never leave a text of a given length, and they go back only by a character that was read
directly before. -/
structure SafeMoves (length : Nat) (ms : List Move) : Prop where
  /-- At every moment, the moves have led to a place in the text. -/
  within : ∀ before, before <+: ms → 0 ≤ distance before ∧ distance before ≤ length
  /-- Directly before each step back, a character was read. -/
  backed : ∀ before, before ++ [.unread] <+: ms → ∃ earlier char, before = earlier ++ [.read char]

namespace SafeMoves

variable {length : Nat} {ms : List Move} {m : Move}

theorem nil : SafeMoves length [] where
  within before h := by
    obtain rfl := List.prefix_nil.1 h
    simp [distance]
  backed before h := absurd (List.prefix_nil.1 h) (by simp)

/-- Safe moves stay safe with one more that stays in the text, and that is backed if it goes back. -/
theorem concat (h : SafeMoves length ms)
    (hwithin : 0 ≤ distance ms + m.distance ∧ distance ms + m.distance ≤ length)
    (hbacked : m = .unread → ∃ earlier char, ms = earlier ++ [.read char]) :
    SafeMoves length (ms ++ [m]) where
  within before hbefore := by
    obtain rfl | hbefore := List.prefix_concat_iff.1 hbefore
    · rwa [distance_concat]
    · exact h.within before hbefore
  backed before hbefore := by
    obtain heq | hbefore := List.prefix_concat_iff.1 hbefore
    · obtain ⟨rfl, hm⟩ := List.append_inj' heq rfl
      exact hbacked (List.cons.inj hm).1.symm
    · exact h.backed before hbefore

end SafeMoves

namespace Cursor

/-- The steps that everything a cursor does is made of. -/
inductive Step : Cursor → Cursor → Prop where
  /-- A reading, also at the end of the text. -/
  | read {c c' : Cursor} {char? : Option Char} (h : c.read = (char?, c')) : Step c c'
  /-- A character is read and given back at once. -/
  | glance {c c' c'' : Cursor} {char : Char} (h : c.read = (some char, c')) (h' : c'.unread = some c'') :
    Step c c''

abbrev Walk : Cursor → Cursor → Prop := Relation.ReflTransGen Step

variable {c c' : Cursor}

theorem Step.walk (h : Step c c') : Walk c c' := .single h

/-! ### Everything is made of steps -/

/-- A change to what comes with a cursor leaves the cursor as it is. -/
theorem exists_of_map {α β : Type} {x : Option (α × Cursor)} {f : α × Cursor → β × Cursor} {b : β}
    (h : x.map f = some (b, c')) (hf : ∀ p, (f p).2 = p.2) : ∃ a, x = some (a, c') := by
  obtain ⟨⟨a, c⟩, rfl, hfac⟩ := Option.map_eq_some_iff.1 h
  have hc : (f (a, c)).2 = c := hf (a, c)
  rw [hfac] at hc
  obtain rfl : c' = c := hc
  exact ⟨a, rfl⟩

theorem walk_readRun {r : Run} {run : List Char} (h : c.readRun r = some (run, c')) : Walk c c' := by
  fun_induction readRun r c generalizing run with
  | case1 c c₁ hread | case3 c char c₁ hread =>
    obtain ⟨-, rfl⟩ := Prod.mk.inj (Option.some.inj h)
    exact (Step.read hread).walk
  | case2 c char c₁ hread hchar ih =>
    obtain ⟨run', hrun⟩ := exists_of_map h fun _ => rfl
    exact .head (.read hread) (ih hrun)
  | case4 c char c₁ hread =>
    obtain ⟨c₂, hunread, heq⟩ := Option.map_eq_some_iff.1 h
    obtain ⟨-, rfl⟩ := Prod.mk.inj heq
    exact (Step.glance hread hunread).walk

theorem walk_next {t : Token} : c.next = some (t, c') → Walk c c' := by
  fun_cases next c with
  | case1 c₁ hread | case2 c₁ hread | case3 c₁ hread | case4 c₁ hread =>
    intro h
    obtain ⟨-, rfl⟩ := Prod.mk.inj (Option.some.inj h)
    exact (Step.read hread).walk
  | case5 char c₁ _ _ _ hread | case6 c₁ _ _ _ hread =>
    intro h
    obtain ⟨run, hrun⟩ := exists_of_map h fun _ => rfl
    exact .head (.read hread) (walk_readRun hrun)
  | case7 char c₁ _ _ _ hread =>
    intro h
    obtain ⟨c₂, hunread, hword⟩ := Option.bind_eq_some_iff.1 h
    obtain ⟨run, hrun⟩ := exists_of_map hword fun _ => rfl
    exact .head (.glance hread hunread) (walk_readRun hrun)

theorem walk_next? {t? : Option Token} (h : c.next? = some (t?, c')) : Walk c c' := by
  obtain ⟨t, hnext⟩ := exists_of_map h fun ⟨t, c⟩ => by cases t <;> rfl
  exact walk_next hnext

theorem walk_tokens {ts : List Token} (h : c.tokens = some (ts, c')) : Walk c c' := by
  fun_induction tokens c generalizing ts with
  | case1 c hnext => cases h
  | case2 c c₁ hnext =>
    obtain ⟨-, rfl⟩ := Prod.mk.inj (Option.some.inj h)
    exact walk_next? hnext
  | case3 c t c₁ hnext ih =>
    obtain ⟨ts', htokens⟩ := exists_of_map h fun _ => rfl
    exact (walk_next? hnext).trans (ih htokens)

theorem walk_answer {r : Lexer.Request} {a : Lexer.Answer} (h : c.answer r = some (a, c')) :
    Walk c c' := by
  cases r with
  | token =>
    obtain ⟨t, hnext⟩ := exists_of_map h fun _ => rfl
    exact walk_next hnext
  | element =>
    obtain ⟨t?, hnext⟩ := exists_of_map h fun _ => rfl
    exact walk_next? hnext
  | elements =>
    obtain ⟨ts, htokens⟩ := exists_of_map h fun _ => rfl
    exact walk_tokens htokens

theorem walk_answers {rs : List Lexer.Request} {as : List Lexer.Answer}
    (h : c.answers rs = some (as, c')) : Walk c c' := by
  induction rs generalizing c as with
  | nil =>
    obtain ⟨-, rfl⟩ := Prod.mk.inj (Option.some.inj h)
    exact .refl
  | cons r rs ih =>
    obtain ⟨⟨a, c₁⟩, hanswer, hrest⟩ := Option.bind_eq_some_iff.1 h
    obtain ⟨as', hanswers⟩ := exists_of_map hrest fun _ => rfl
    exact (walk_answer hanswer).trans (ih hanswers)

/-! ### What the steps preserve -/

/-- The cursor is where its moves have led it, and these were safe. -/
structure Sound (c : Cursor) : Prop where
  position_eq : (c.position : Int) = distance c.moves
  safe : SafeMoves c.text.length c.moves

theorem sound_ofString (text : String) : (ofString text).Sound := ⟨rfl, .nil⟩

theorem Sound.position_le (h : c.Sound) : c.position ≤ c.text.length := by
  have hwithin := (h.safe.within c.moves List.prefix_rfl).2
  have hposition := h.position_eq
  omega

theorem Sound.move {m : Move} {position : Nat} (h : c.Sound)
    (hposition : (position : Int) = c.position + m.distance) (hle : position ≤ c.text.length)
    (hbacked : m = .unread → ∃ earlier char, c.moves = earlier ++ [.read char]) :
    Sound ⟨c.text, position, c.moves ++ [m]⟩ := by
  rw [h.position_eq] at hposition
  refine ⟨?_, h.safe.concat ⟨?_, ?_⟩ hbacked⟩
  · rw [distance_concat, hposition]
  · omega
  · simp only [← hposition]
    omega

theorem Sound.read {char? : Option Char} (h : c.Sound) (hread : c.read = (char?, c')) :
    c'.Sound ∧ c'.text = c.text := by
  obtain ⟨char, hchar, heq⟩ | ⟨hend, heq⟩ := read_cases c
  · rw [heq, Prod.mk.injEq] at hread
    obtain ⟨-, rfl⟩ := hread
    obtain ⟨hlt, -⟩ := List.getElem?_eq_some_iff.1 hchar
    exact ⟨h.move rfl hlt nofun, rfl⟩
  · rw [heq, Prod.mk.injEq] at hread
    obtain ⟨-, rfl⟩ := hread
    exact ⟨h.move (by simp [Move.distance]) h.position_le nofun, rfl⟩

/-- What a glance preserves. The step back is the one move that has to be backed, and it is by the reading
before it. -/
theorem Sound.glance {c'' : Cursor} {char : Char} (h : c.Sound) (hread : c.read = (some char, c'))
    (hunread : c'.unread = some c'') : c''.Sound ∧ c''.text = c.text := by
  have hsound := (h.read hread).1
  obtain ⟨char', -, heq⟩ | ⟨-, heq⟩ := read_cases c
  · rw [heq, Prod.mk.injEq] at hread
    obtain ⟨-, rfl⟩ := hread
    obtain rfl := Option.some.inj hunread
    refine ⟨hsound.move ?_ h.position_le fun _ => ⟨_, _, rfl⟩, rfl⟩
    simp only [Move.distance]
    omega
  · rw [heq] at hread
    cases hread

/-- **What a step preserves.** -/
theorem Sound.step (h : c.Sound) (hstep : Step c c') : c'.Sound ∧ c'.text = c.text := by
  cases hstep with
  | read hread => exact h.read hread
  | glance hread hunread => exact h.glance hread hunread

/-- **What a walk preserves.** -/
theorem Sound.walk (h : c.Sound) (hwalk : Walk c c') : c'.Sound ∧ c'.text = c.text := by
  induction hwalk with
  | refl => exact ⟨h, rfl⟩
  | tail _ hstep ih =>
    obtain ⟨hsound, htext⟩ := ih
    obtain ⟨hsound', htext'⟩ := hsound.step hstep
    exact ⟨hsound', htext'.trans htext⟩

/-! ## Requests to a cursor -/

theorem Sound.length_rest (h : c.Sound) : c.position + c.rest.length = c.text.length := by
  have hle := h.position_le
  rw [rest, List.length_drop]
  omega

theorem Sound.lexer_eq_atEnd_iff (h : c.Sound) : c.lexer = .atEnd ↔ c.position = c.text.length := by
  have hlength := h.length_rest
  rw [lexer, Lexer.atEnd, Lexer.mk.injEq, ← List.length_eq_zero_iff]
  omega

/-- What one request makes of a cursor: an answer without tokens means that it was at the end of the text and
has stayed there, and any other answer takes it forward. -/
structure Advances (c : Cursor) (a : Lexer.Answer) (c' : Cursor) : Prop where
  isEnd_iff : a.isEnd = true ↔ c.position = c.text.length
  stays : a.isEnd = true → c'.position = c.position
  moves_on : a.isEnd = false → c.position < c'.position

/-- **A request is always answered**, and moves the cursor on unless it is at the end of the text. -/
theorem Sound.exists_answer (h : c.Sound) (r : Lexer.Request) :
    ∃ a c', c.answer r = some (a, c') ∧ Advances c a c' := by
  obtain ⟨c', hanswer, hlexer⟩ := answer_eq c r
  obtain ⟨hsound, htext⟩ := h.walk (walk_answer hanswer)
  have hrest := h.length_rest
  have hrest' := hsound.length_rest
  refine ⟨_, c', hanswer, ?_, fun hend => ?_, fun hend => ?_⟩
  · rw [Lexer.isEnd_answer_iff, h.lexer_eq_atEnd_iff]
  · have hc : c.lexer = .atEnd := Lexer.isEnd_answer_iff.1 hend
    rw [hc, Lexer.answer_atEnd, hsound.lexer_eq_atEnd_iff] at hlexer
    rw [hlexer, htext, h.lexer_eq_atEnd_iff.1 hc]
  · have hc : c.lexer ≠ .atEnd := by
      rw [Ne, ← Lexer.isEnd_answer_iff (r := r), hend]
      simp
    have hlt := Lexer.length_answer_lt r hc
    rw [← hlexer] at hlt
    simp only [lexer] at hlt
    rw [htext] at hrest'
    omega

/-- **A cursor is safe and gets on, whatever it is asked.** No request fails, and the answers are those of a
lexer over the text. Up to the last one the cursor has been in the text at every moment, and has gone back
only by a character that it had read directly before. Any further request is answered too, without tokens
exactly if the cursor is at the end of the text, and else takes it forward. The answers deliver the tokens of
the text in order, and after one that exhausts them, all have been delivered and none is delivered again. -/
theorem requests_safe (text : String) (rs : List Lexer.Request) :
    ∃ c, (ofString text).answers rs = some ((Lexer.ofString text).answers rs, c) ∧
      c.text = text.toList ∧ (c.position : Int) = distance c.moves ∧ SafeMoves text.length c.moves ∧
      (∀ r, ∃ a c', c.answer r = some (a, c') ∧ Advances c a c') ∧
      Lexer.delivered ((Lexer.ofString text).answers rs) <+: Token.scan text ∧
      ∀ before a after, (Lexer.ofString text).answers rs = before ++ a :: after → a.exhausts = true →
        Lexer.delivered (before ++ [a]) = Token.scan text ∧ ∀ b ∈ after, b.isEnd = true := by
  obtain ⟨c, hanswers⟩ := answers_eq (ofString text) rs
  obtain ⟨hsound, htext⟩ := (sound_ofString text).walk (walk_answers hanswers)
  have htext' : c.text = text.toList := htext
  have hsafe := hsound.safe
  rw [htext', String.length_toList] at hsafe
  refine ⟨c, hanswers, htext', hsound.position_eq, hsafe, hsound.exists_answer, ?_, ?_⟩
  · exact Lexer.delivered_answers_prefix (Lexer.ofString text) rs
  · intro before a after heq ha
    exact Lexer.answers_after_exhausts heq ha

/-- Four requests of all kinds, the third and fourth of them at the end of the text. -/
theorem requests_safe_mixed :
    ∃ c, (ofString "a 'b").answers [.token, .elements, .element, .token] =
        some ([.token (.word "a"), .elements [.whitespace, .quoted "b"], .element none, .token .eof], c) ∧
      SafeMoves 4 c.moves ∧
      Lexer.delivered [.token (.word "a"), .elements [.whitespace, .quoted "b"]] = Token.scan "a 'b" := by
  obtain ⟨c, hanswers, -, -, hsafe, -, -, hexhausts⟩ :=
    requests_safe "a 'b" [.token, .elements, .element, .token]
  have heq : (Lexer.ofString "a 'b").answers [.token, .elements, .element, .token] =
      [.token (.word "a")] ++ .elements [.whitespace, .quoted "b"] :: [.element none, .token .eof] := by
    decide +kernel
  obtain ⟨hdelivered, -⟩ := hexhausts _ _ _ heq rfl
  rw [heq] at hanswers
  exact ⟨c, hanswers, hsafe, hdelivered⟩

end Cursor

end SelectQuery
